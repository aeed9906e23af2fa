import Folio.Proofs.Registry.Lookup

/-!
# Kept constructors do not show

A registry keeps the constructors that it has used. Nobody who calls it can tell: it answers as a
ledger does that writes down every registration and looks the constructor up each time.

* `Call`, **`Session.step`**: what may be asked of a registry while descriptors are made, and how
  the registry, or whatever else stands in its place, goes on.
* `Descriptor.construct`, `Registry.lookUp`: what is answered without kept constructors.
* `Keeper`: the operations of what stands there: `Keeper.registry`, and `Keeper.ledger`, which keeps
  no constructors.
* `Numbered`, **`Registry.Coherent`**: the invariants. A number stands for the constructors of one
  descriptor, and what is kept under a number is one of them.
* **`Session.answers_eq`**: registry and ledger give the same answers.
* `Session.instantiate_extended`: a constructor that is added is the one that is called.
-/

namespace Folio

variable {α σ τ : Type}

/-! ## Sessions -/

/-- What is done with descriptors. A descriptor is called by its place among those made so far. -/
inductive Call (α : Type)
  /-- Make a descriptor of a type. -/
  | describe (typeName : String)
  /-- Make a descriptor from another by adding a constructor. -/
  | extend (place : Nat) (signature : Signature) (constructor : Constructor α)
  /-- Make a descriptor from another by naming it anew. -/
  | rename (place : Nat) (typeName : String)
  | register (identifier : String) (place : Nat)
  | create (identifier : String) (args : ConstructorArgs)
  | instantiate (place : Nat) (args : ConstructorArgs)

/-- What has descriptors registered and constructs things. -/
structure Keeper (α σ : Type) where
  register : σ → String → Descriptor α → Except ConfigurationError σ
  create : σ → String → ConstructorArgs → Except ConfigurationError α × σ
  construct : σ → Descriptor α → ConstructorArgs → Except ConfigurationError α × σ

/-- The registry. -/
def Keeper.registry : Keeper α (Registry α) where
  register := Registry.register
  create := Registry.create
  construct := Registry.construct

/-- What a descriptor constructs by a constructor of its own. -/
def Descriptor.construct (descriptor : Descriptor α) (args : ConstructorArgs) :
    Except ConfigurationError α :=
  match descriptor.constructor? args.signature with
  | none => .error (.missingConstructor descriptor.typeName args.signature)
  | some constructor => .ok (constructor args)

/-- What a registry answers that keeps nothing. -/
def Registry.lookUp (registry : Registry α) (identifier : String) (args : ConstructorArgs) :
    Except ConfigurationError α :=
  if identifier = "" then .error (.emptyIdentifier registry.kind)
  else
    match registry.get? identifier with
    | none => .error (.unknownIdentifier registry.kind identifier)
    | some descriptor => descriptor.construct args

/-- All registrations, the latest first. -/
abbrev Ledger (α : Type) := List (String × Descriptor α)

/-- The descriptor that was registered last under an identifier. -/
def Ledger.get? (ledger : Ledger α) (identifier : String) : Option (Descriptor α) :=
  (ledger.find? fun entry => entry.1 = identifier).map Prod.snd

/-- **A ledger in place of a registry**: it keeps no constructors. -/
def Keeper.ledger (kind : String) : Keeper α (Ledger α) where
  register ledger identifier descriptor :=
    if identifier = "" then .error (.emptyIdentifier kind)
    else .ok ((identifier, descriptor) :: ledger)
  create ledger identifier args :=
    if identifier = "" then (.error (.emptyIdentifier kind), ledger)
    else
      match ledger.get? identifier with
      | none => (.error (.unknownIdentifier kind identifier), ledger)
      | some descriptor => (descriptor.construct args, ledger)
  construct ledger descriptor args := (descriptor.construct args, ledger)

/-- What there is in the course of calls. -/
structure Session (α σ : Type) where
  store : σ
  /-- The next number of a descriptor. -/
  next : Nat := 1
  /-- The descriptors made so far, in order. -/
  made : List (Descriptor α) := []

namespace Session

/-- One descriptor more. -/
def adding (session : Session α σ) (make : Fresh (Descriptor α)) : Session α σ :=
  { session with
    next := (make session.next).2
    made := session.made ++ [(make session.next).1] }

/-- **Answer a call.** A call for a descriptor that there is not does nothing. -/
def step (keeper : Keeper α σ) (session : Session α σ) :
    Call α → Except ConfigurationError (Option α) × Session α σ
  | .describe typeName => (.ok none, session.adding (Descriptor.ofType typeName))
  | .extend place signature constructor =>
    match session.made[place]? with
    | none => (.ok none, session)
    | some descriptor =>
      (.ok none, session.adding (descriptor.withConstructor signature constructor))
  | .rename place typeName =>
    match session.made[place]? with
    | none => (.ok none, session)
    | some descriptor => (.ok none, session.adding (pure (descriptor.named typeName)))
  | .register identifier place =>
    match session.made[place]? with
    | none => (.ok none, session)
    | some descriptor =>
      match keeper.register session.store identifier descriptor with
      | .error e => (.error e, session)
      | .ok store => (.ok none, { session with store := store })
  | .create identifier args =>
    let (outcome, store) := keeper.create session.store identifier args
    (outcome.map some, { session with store := store })
  | .instantiate place args =>
    match session.made[place]? with
    | none => (.ok none, session)
    | some descriptor =>
      let (outcome, store) := keeper.construct session.store descriptor args
      (outcome.map some, { session with store := store })

/-- The session after calls. -/
def after (keeper : Keeper α σ) (session : Session α σ) (calls : List (Call α)) : Session α σ :=
  calls.foldl (fun session call => (session.step keeper call).2) session

/-- The answers to calls, in order. -/
def answers (keeper : Keeper α σ) :
    Session α σ → List (Call α) → List (Except ConfigurationError (Option α))
  | _, [] => []
  | session, call :: calls =>
    (session.step keeper call).1 :: answers keeper (session.step keeper call).2 calls

end Session

/-! ## Numbers -/

/-- No number was given out beyond the next one, and descriptors of one number have the same
constructors. -/
structure Numbered (next : Nat) (made : List (Descriptor α)) : Prop where
  below : ∀ descriptor ∈ made, descriptor.id < next
  alike : ∀ descriptor ∈ made, ∀ other ∈ made, descriptor.id = other.id →
    descriptor.constructor? = other.constructor?

namespace Numbered

variable {next : Nat} {made : List (Descriptor α)}

theorem nil (next : Nat) : Numbered next ([] : List (Descriptor α)) :=
  ⟨List.forall_mem_nil _, List.forall_mem_nil _⟩

theorem fresh (h : Numbered next made) {descriptor : Descriptor α} (hid : descriptor.id = next) :
    Numbered (next + 1) (made ++ [descriptor]) := by
  have hnew {other : Descriptor α} (hother : other ∈ made) : other.id ≠ descriptor.id :=
    hid ▸ Nat.ne_of_lt (h.below other hother)
  refine ⟨fun d hd => ?_, fun d hd e he hsame => ?_⟩
  · rcases List.mem_append.mp hd with hd | hd
    · exact Nat.lt_succ_of_lt (h.below d hd)
    · rw [List.mem_singleton.mp hd, hid]
      exact Nat.lt_succ_self next
  · rcases List.mem_append.mp hd with hd | hd <;> rcases List.mem_append.mp he with he | he
    · exact h.alike d hd e he hsame
    · rw [List.mem_singleton.mp he] at hsame
      exact absurd hsame (hnew hd)
    · rw [List.mem_singleton.mp hd] at hsame
      exact absurd hsame.symm (hnew he)
    · rw [List.mem_singleton.mp hd, List.mem_singleton.mp he]

theorem named (h : Numbered next made) {descriptor : Descriptor α} (hmade : descriptor ∈ made)
    (typeName : String) : Numbered next (made ++ [descriptor.named typeName]) := by
  -- A renamed descriptor stands for the one that it was made from.
  have hlike (d : Descriptor α) (hd : d ∈ made ++ [descriptor.named typeName]) :
      ∃ like ∈ made, d.id = like.id ∧ d.constructor? = like.constructor? := by
    rcases List.mem_append.mp hd with hd | hd
    · exact ⟨d, hd, rfl, rfl⟩
    · rw [List.mem_singleton.mp hd]
      exact ⟨descriptor, hmade, rfl, funext fun signature => by cases signature <;> rfl⟩
  refine ⟨fun d hd => ?_, fun d hd e he hsame => ?_⟩
  · obtain ⟨like, hmem, hid, -⟩ := hlike d hd
    exact hid ▸ h.below like hmem
  · obtain ⟨like, hmem, hid, hconstructor⟩ := hlike d hd
    obtain ⟨like', hmem', hid', hconstructor'⟩ := hlike e he
    rw [hconstructor, hconstructor']
    exact h.alike like hmem like' hmem' (hid.symm.trans (hsame.trans hid'))

end Numbered

theorem Descriptor.withConstructor_fresh (descriptor : Descriptor α) (signature : Signature)
    (constructor : Constructor α) (next : Nat) :
    (descriptor.withConstructor signature constructor next).1.id = next ∧
      (descriptor.withConstructor signature constructor next).2 = next + 1 := by
  cases signature <;> exact ⟨rfl, rfl⟩

/-- A constructor that is added is found under its signature, and the other one stays. -/
theorem Descriptor.constructor?_withConstructor (descriptor : Descriptor α)
    (signature other : Signature) (constructor : Constructor α) (next : Nat) :
    (descriptor.withConstructor signature constructor next).1.constructor? other =
      if other = signature then some constructor else descriptor.constructor? other := by
  cases signature <;> cases other <;> rfl

/-! ## What is kept -/

/-- **What is registered was made, and what is kept is a constructor of what was made.** -/
structure Registry.Coherent (made : List (Descriptor α)) (registry : Registry α) : Prop where
  entries : ∀ entry ∈ registry.entries, entry.2 ∈ made
  kept : ∀ kept ∈ registry.constructors,
    ∃ descriptor ∈ made, descriptor.id = kept.1.1 ∧ descriptor.constructor? kept.1.2 = some kept.2

namespace Registry

variable {next : Nat} {made : List (Descriptor α)} {registry : Registry α}

theorem Coherent.mono (h : registry.Coherent made) (descriptor : Descriptor α) :
    registry.Coherent (made ++ [descriptor]) := by
  refine ⟨fun entry hentry => List.mem_append_left _ (h.entries entry hentry),
    fun kept hkept => ?_⟩
  obtain ⟨owner, howner, hid, hconstructor⟩ := h.kept kept hkept
  exact ⟨owner, List.mem_append_left _ howner, hid, hconstructor⟩

theorem Coherent.keep (h : registry.Coherent made) {descriptor : Descriptor α}
    (hmade : descriptor ∈ made) {signature : Signature} {constructor : Constructor α}
    (hconstructor : descriptor.constructor? signature = some constructor) :
    (registry.keep descriptor.id signature constructor).Coherent made := by
  refine ⟨h.entries, fun kept hkept => ?_⟩
  rcases List.mem_cons.mp hkept with rfl | hkept
  · exact ⟨descriptor, hmade, rfl, hconstructor⟩
  · exact h.kept kept (List.mem_filter.mp hkept).1

theorem Coherent.construct (h : registry.Coherent made) {descriptor : Descriptor α}
    (hmade : descriptor ∈ made) (args : ConstructorArgs) :
    (registry.construct descriptor args).2.Coherent made := by
  unfold Registry.construct
  dsimp only
  split
  · exact h
  · split
    · exact h
    · exact h.keep hmade ‹_›

theorem construct_kind (descriptor : Descriptor α) (args : ConstructorArgs) :
    (registry.construct descriptor args).2.kind = registry.kind := by
  unfold construct
  dsimp only
  split
  · rfl
  · split <;> rfl

theorem construct_entries (descriptor : Descriptor α) (args : ConstructorArgs) :
    (registry.construct descriptor args).2.entries = registry.entries := by
  unfold construct
  dsimp only
  split
  · rfl
  · split <;> rfl

/-- What is kept for a descriptor that was made is the constructor that it has. -/
theorem Coherent.constructor?_own (h : registry.Coherent made) (hnumbered : Numbered next made)
    {descriptor : Descriptor α} (hmade : descriptor ∈ made) {signature : Signature}
    {constructor : Constructor α}
    (hkept : registry.constructor? descriptor.id signature = some constructor) :
    descriptor.constructor? signature = some constructor := by
  -- It was kept for a descriptor of the same number, whose constructors are the same.
  obtain ⟨owner, howner, hid, hconstructor⟩ := h.kept _ (mem_constructors_of_constructor? hkept)
  rw [← hnumbered.alike owner howner descriptor hmade hid, hconstructor]

/-- A registry constructs what the descriptor constructs by a constructor of its own. -/
theorem construct_eq (hnumbered : Numbered next made) (h : registry.Coherent made)
    {descriptor : Descriptor α} (hmade : descriptor ∈ made) (args : ConstructorArgs) :
    (registry.construct descriptor args).1 = descriptor.construct args := by
  unfold construct Descriptor.construct
  dsimp only
  cases hkept : registry.constructor? descriptor.id args.signature with
  | some constructor => rw [h.constructor?_own hnumbered hmade hkept]
  | none => cases descriptor.constructor? args.signature <;> rfl

theorem construct_error {descriptor : Descriptor α} {args : ConstructorArgs}
    {error : ConfigurationError} (h : (registry.construct descriptor args).1 = .error error) :
    (registry.construct descriptor args).2 = registry := by
  unfold construct at h ⊢
  dsimp only at h ⊢
  split at h
  · cases h
  · split at h
    · rfl
    · cases h

theorem Coherent.registered (h : registry.Coherent made) {descriptor : Descriptor α}
    (hmade : descriptor ∈ made) {identifier : String} {after : Registry α}
    (hentries : after.entries = (registry.setEntry identifier descriptor).entries)
    (hkept : after.constructors ⊆ registry.constructors) : after.Coherent made := by
  refine ⟨fun entry hentry => ?_, fun kept hmem => h.kept kept (hkept hmem)⟩
  rw [hentries] at hentry
  rcases List.mem_cons.mp hentry with rfl | hentry
  · exact hmade
  · exact h.entries entry (List.mem_filter.mp hentry).1

theorem create_error {identifier : String} {args : ConstructorArgs} {error : ConfigurationError}
    (h : (registry.create identifier args).1 = .error error) :
    (registry.create identifier args).2 = registry := by
  unfold create at h ⊢
  split
  · rfl
  · rw [if_neg ‹_›] at h
    cases hget : registry.get? identifier with
    | none => rfl
    | some descriptor =>
      rw [hget] at h
      exact construct_error h

end Registry

/-! ## Registry and ledger -/

theorem Ledger.get?_cons (ledger : Ledger α) (identifier other : String)
    (descriptor : Descriptor α) :
    Ledger.get? ((identifier, descriptor) :: ledger) other =
      if other = identifier then some descriptor else ledger.get? other := by
  unfold get?
  rw [List.find?_cons]
  by_cases h : other = identifier
  · rw [decide_eq_true h.symm]
    exact (if_pos h).symm
  · rw [decide_eq_false (Ne.symm h)]
    exact (if_neg h).symm

/-- **A registry and a ledger in the course of the same calls.** -/
structure Session.Tracks (kind : String) (session : Session α (Registry α))
    (plain : Session α (Ledger α)) : Prop where
  kind : session.store.kind = kind
  next : session.next = plain.next
  made : session.made = plain.made
  numbered : Numbered session.next session.made
  coherent : session.store.Coherent session.made
  entries : ∀ identifier, session.store.get? identifier = plain.store.get? identifier

namespace Session

variable {kind : String} {session : Session α (Registry α)} {plain : Session α (Ledger α)}

theorem Tracks.adding (h : session.Tracks kind plain) {make : Fresh (Descriptor α)}
    (hnumbered : Numbered (make session.next).2 (session.made ++ [(make session.next).1])) :
    (session.adding make).Tracks kind (plain.adding make) := by
  unfold Session.adding
  refine ⟨h.kind, ?_, ?_, hnumbered, h.coherent.mono _, h.entries⟩
  · rw [h.next]
  · rw [h.next, h.made]

theorem Tracks.construct (h : session.Tracks kind plain) {descriptor : Descriptor α}
    (hmade : descriptor ∈ session.made) (args : ConstructorArgs) :
    ({ session with store := (session.store.construct descriptor args).2 } : Session α _).Tracks
      kind plain := by
  refine ⟨(Registry.construct_kind _ _).trans h.kind, h.next, h.made, h.numbered,
    h.coherent.construct hmade args, fun identifier => ?_⟩
  unfold Registry.get?
  rw [Registry.construct_entries]
  exact h.entries identifier

/-- The same call has the same answer, and registry and ledger go on alike. -/
theorem Tracks.step (h : session.Tracks kind plain) (call : Call α) :
    (session.step .registry call).1 = (plain.step (.ledger kind) call).1 ∧
      (session.step .registry call).2.Tracks kind (plain.step (.ledger kind) call).2 := by
  have hplaces (place : Nat) : plain.made[place]? = session.made[place]? := by rw [h.made]
  cases call with
  | describe typeName => exact ⟨rfl, h.adding (h.numbered.fresh rfl)⟩
  | extend place signature constructor =>
    simp only [Session.step, hplaces]
    cases hplace : session.made[place]? with
    | none => exact ⟨rfl, h⟩
    | some descriptor =>
      obtain ⟨hid, hnext⟩ := descriptor.withConstructor_fresh signature constructor session.next
      exact ⟨rfl, h.adding (hnext ▸ h.numbered.fresh hid)⟩
  | rename place typeName =>
    simp only [Session.step, hplaces]
    cases hplace : session.made[place]? with
    | none => exact ⟨rfl, h⟩
    | some descriptor =>
      exact ⟨rfl, h.adding (h.numbered.named (List.mem_of_getElem? hplace) typeName)⟩
  | register identifier place =>
    simp only [Session.step, hplaces, Keeper.registry, Keeper.ledger]
    cases hplace : session.made[place]? with
    | none => exact ⟨rfl, h⟩
    | some descriptor =>
      by_cases hidentifier : identifier = ""
      · simp only [Registry.register, if_pos hidentifier, h.kind]
        exact ⟨trivial, h⟩
      · obtain ⟨after, hafter, hkind, hentries, hkept⟩ :=
          session.store.register_eq_ok hidentifier descriptor
        simp only [hafter, if_neg hidentifier]
        refine ⟨trivial, hkind.trans h.kind, h.next, h.made, h.numbered,
          h.coherent.registered (List.mem_of_getElem? hplace) hentries hkept, fun other => ?_⟩
        have hother := session.store.get?_setEntry identifier other descriptor
        rw [Ledger.get?_cons, ← h.entries other, ← hother]
        unfold Registry.get?
        rw [hentries]
  | create identifier args =>
    simp only [Session.step, Keeper.registry, Keeper.ledger, Registry.create]
    by_cases hidentifier : identifier = ""
    · simp only [if_pos hidentifier, h.kind]
      exact ⟨trivial, h⟩
    · simp only [if_neg hidentifier, ← h.entries identifier]
      cases hget : session.store.get? identifier with
      | none =>
        simp only [h.kind]
        exact ⟨trivial, h⟩
      | some descriptor =>
        have hmade := h.coherent.entries _ (Registry.mem_entries_of_get? hget)
        exact ⟨congrArg _ (Registry.construct_eq h.numbered h.coherent hmade args),
          h.construct hmade args⟩
  | instantiate place args =>
    simp only [Session.step, hplaces, Keeper.registry, Keeper.ledger]
    cases hplace : session.made[place]? with
    | none => exact ⟨rfl, h⟩
    | some descriptor =>
      have hmade := List.mem_of_getElem? hplace
      exact ⟨congrArg (Except.map some) (Registry.construct_eq h.numbered h.coherent hmade args),
        h.construct hmade args⟩

theorem Tracks.start (kind : String) (next : Nat) :
    ({ store := { kind := kind }, next := next } : Session α (Registry α)).Tracks kind
      { store := [], next := next } :=
  ⟨rfl, rfl, rfl, .nil next, ⟨List.forall_mem_nil _, List.forall_mem_nil _⟩, fun _ => rfl⟩

theorem Tracks.after (h : session.Tracks kind plain) (calls : List (Call α)) :
    (session.after .registry calls).Tracks kind (plain.after (.ledger kind) calls) := by
  induction calls generalizing session plain with
  | nil => exact h
  | cons call calls ih => exact ih (h.step call).2

theorem Tracks.answers (h : session.Tracks kind plain) (calls : List (Call α)) :
    Session.answers .registry session calls = Session.answers (.ledger kind) plain calls := by
  induction calls generalizing session plain with
  | nil => rfl
  | cons call calls ih =>
    obtain ⟨hanswer, hnext⟩ := h.step call
    simp only [Session.answers, hanswer, ih hnext]

theorem step_error {call : Call α} {error : ConfigurationError}
    (h : (session.step .registry call).1 = .error error) :
    (session.step .registry call).2 = session := by
  cases call with
  | describe typeName => cases h
  | extend place signature constructor =>
    simp only [step] at h
    split at h <;> cases h
  | rename place typeName =>
    simp only [step] at h
    split at h <;> cases h
  | register identifier place =>
    simp only [step] at h ⊢
    split at h
    · cases h
    · split at h
      · rfl
      · cases h
  | create identifier args =>
    simp only [step, Keeper.registry] at h ⊢
    cases hcreate : (session.store.create identifier args).1 with
    | ok thing =>
      rw [hcreate] at h
      cases h
    | error e => rw [Registry.create_error hcreate]
  | instantiate place args =>
    simp only [step, Keeper.registry] at h ⊢
    split at h
    · cases h
    · rename_i descriptor _
      cases hconstruct : (session.store.construct descriptor args).1 with
      | ok thing =>
        rw [hconstruct] at h
        cases h
      | error e => rw [Registry.construct_error hconstruct]

/-- **Kept constructors do not show.** Whatever is called in whatever order, a registry answers as a
ledger does, and a call that fails leaves the registry as it was. -/
theorem answers_eq (kind : String) (next : Nat) (calls : List (Call α)) :
    let registry : Session α (Registry α) := { store := { kind := kind }, next := next }
    let ledger : Session α (Ledger α) := { store := [], next := next }
    registry.answers .registry calls = ledger.answers (.ledger kind) calls ∧
      ∀ call : Call α,
        let session := registry.after .registry calls
        (∃ thing, (session.step .registry call).1 = .ok thing) ∨
          (session.step .registry call).2 = session := by
  refine ⟨(Tracks.start kind next).answers calls, fun call => ?_⟩
  cases h : (Session.step .registry _ call).1 with
  | ok thing => exact .inl ⟨thing, h⟩
  | error e => exact .inr (step_error h)

/-! ## Constructors that are added -/

/-- What was made stays where it is. -/
theorem made_step (keeper : Keeper α σ) (session : Session α σ) (call : Call α) :
    session.made <+: (session.step keeper call).2.made := by
  cases call with
  | describe typeName => exact List.prefix_append _ _
  | extend place signature constructor =>
    simp only [step]
    split
    · exact List.prefix_rfl
    · exact List.prefix_append _ _
  | rename place typeName =>
    simp only [step]
    split
    · exact List.prefix_rfl
    · exact List.prefix_append _ _
  | register identifier place =>
    simp only [step]
    split
    · exact List.prefix_rfl
    · split <;> exact List.prefix_rfl
  | create identifier args => exact List.prefix_rfl
  | instantiate place args =>
    simp only [step]
    split <;> exact List.prefix_rfl

theorem made_after (keeper : Keeper α σ) (session : Session α σ) (calls : List (Call α)) :
    session.made <+: (session.after keeper calls).made := by
  induction calls generalizing session with
  | nil => exact List.prefix_rfl
  | cons call calls ih => exact (made_step keeper session call).trans (ih _)

/-- **The constructor that was added last for a signature is called**, and not one that was kept for
the descriptor that it was added to, whatever is called in between. -/
theorem instantiate_extended (kind : String) (next : Nat) (before between : List (Call α))
    (place : Nat) (constructor : Constructor α) (args : ConstructorArgs) :
    let begun := after .registry
      ({ store := { kind := kind }, next := next } : Session α (Registry α)) before
    place < begun.made.length →
      let extended := (begun.step .registry (.extend place args.signature constructor)).2
      ((extended.after .registry between).step .registry (.instantiate begun.made.length args)).1 =
        .ok (some (constructor args)) := by
  intro begun hplace extended
  let added : Descriptor α :=
    (begun.made[place].withConstructor args.signature constructor begun.next).1
  have hextended : extended.made = begun.made ++ [added] := by
    simp only [extended, step, List.getElem?_eq_getElem hplace]
    rfl
  have htracks := ((((Tracks.start (α := α) kind next).after before).step
    (.extend place args.signature constructor)).2).after between
  have hadded : (extended.after .registry between).made[begun.made.length]? = some added := by
    obtain ⟨more, hmore⟩ := made_after .registry extended between
    rw [← hmore, hextended, List.append_assoc, List.getElem?_append_right (Nat.le_refl _),
      Nat.sub_self]
    rfl
  have hconstruct : added.construct args = .ok (constructor args) := by
    rw [Descriptor.construct, Descriptor.constructor?_withConstructor, if_pos rfl]
  have hmade := List.mem_of_getElem? hadded
  have hanswer : ((extended.after .registry between).store.construct added args).1 =
      .ok (constructor args) :=
    (Registry.construct_eq htracks.numbered htracks.coherent hmade args).trans hconstruct
  simp only [step, hadded]
  exact congrArg (Except.map some) hanswer

end Session

end Folio
