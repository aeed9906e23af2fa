import Folio.Proofs.Registry.Session
import Mathlib.Data.List.Perm.Subperm
import Mathlib.Data.List.ProdSigma

/-!
# What is kept is in use

A registration may put a descriptor out of use. What was kept for it is dropped then, so a registry
that constructs by identifier alone keeps nothing for descriptors that are registered nowhere.

* `Registry.register_cases`: what a registration does; `Registry.constructors_register_eq`: where it
  drops nothing.
* **`Registry.Tidy`**: the invariant. Whatever is kept is kept once, for a descriptor in use.
* `Registry.Tidy.isRegistered_setEntry`: at most the descriptor that is replaced goes out of use.
* **`Registry.Tidy.constructors_register`**: what a registration drops.
* `Registry.Tidy.length_constructors_le`: how much is kept.
* `Call.ByIdentifier`, `Session.tidy_step`, `Session.tidy_after`: calls leave a registry tidy.
* **`Session.kept_in_use`**: after every run of calls, what is kept is in use.
-/

namespace Folio

variable {α : Type}

namespace Registry

variable {registry after : Registry α} {identifier : String} {descriptor : Descriptor α} {id : Nat}

theorem isRegistered_iff :
    registry.isRegistered id = true ↔ ∃ entry ∈ registry.entries, entry.2.id = id := by
  simp only [isRegistered, List.any_eq_true, decide_eq_true_eq]

/-- **What a registration does**: the descriptor that it replaces stays in use, if there is one, or
what is kept for it is dropped. -/
theorem register_cases (h : registry.register identifier descriptor = .ok after) :
    let next := registry.setEntry identifier descriptor
    (after = next ∧ ∀ prior, registry.get? identifier = some prior →
      next.isRegistered prior.id = true) ∨
    ∃ prior, registry.get? identifier = some prior ∧ next.isRegistered prior.id = false ∧
      after = next.evict prior.id := by
  intro next
  unfold register at h
  split at h
  · cases h
  · cases hget : registry.get? identifier with
    | none =>
      rw [hget] at h
      exact .inl ⟨(Except.ok.inj h).symm, nofun⟩
    | some prior =>
      rw [hget] at h
      dsimp only at h
      split at h
      · next hsame =>
        refine .inl ⟨(Except.ok.inj h).symm, ?_⟩
        rintro _ ⟨⟩
        exact isRegistered_iff.mpr ⟨(identifier, descriptor), List.mem_cons_self, hsame.symm⟩
      · obtain rfl := Except.ok.inj h
        unfold evictUnregistered
        split
        · next hused =>
          refine .inl ⟨rfl, ?_⟩
          rintro _ ⟨⟩
          exact hused
        · next hunused => exact .inr ⟨prior, rfl, Bool.eq_false_iff.mpr hunused, rfl⟩

/-- **Nothing is dropped** where a descriptor takes its own place, or the place of one that has
another identifier. -/
theorem constructors_register_eq
    (hafter : registry.register identifier descriptor = .ok after) {prior : Descriptor α}
    (hget : registry.get? identifier = some prior)
    (hstays : prior.id = descriptor.id ∨ ∃ other found, other ≠ identifier ∧
      registry.get? other = some found ∧ found.id = prior.id) :
    after.constructors = registry.constructors := by
  rcases register_cases hafter with ⟨rfl, -⟩ | ⟨_, hfound, hunused, -⟩
  · rfl
  · obtain rfl := Option.some.inj (hget.symm.trans hfound)
    refine absurd (isRegistered_iff.mpr ?_) (Bool.eq_false_iff.mp hunused)
    rcases hstays with hsame | ⟨other, found, hother, hfound, hsame⟩
    · exact ⟨(identifier, descriptor), List.mem_cons_self, hsame.symm⟩
    · refine ⟨(other, found), List.mem_cons_of_mem _ (List.mem_filter.mpr ⟨?_, ?_⟩), hsame⟩
      · exact mem_entries_of_get? hfound
      · simpa using hother

/-- **Whatever is kept is kept once, for a descriptor that is registered.** -/
structure Tidy (registry : Registry α) : Prop where
  identifiers : (registry.entries.map Prod.fst).Nodup
  keys : (registry.constructors.map Prod.fst).Nodup
  used : ∀ kept ∈ registry.constructors, registry.isRegistered kept.1.1 = true

namespace Tidy

theorem empty (kind : String) : ({ kind := kind } : Registry α).Tidy :=
  ⟨List.nodup_nil, List.nodup_nil, List.forall_mem_nil _⟩

theorem get?_of_mem (h : registry.Tidy) {entry : String × Descriptor α}
    (hentry : entry ∈ registry.entries) : registry.get? entry.1 = some entry.2 :=
  find?_of_mem_key h.identifiers hentry

/-! ## Registrations -/

/-- A descriptor stays in use, unless it is the one that is replaced. -/
theorem isRegistered_setEntry (h : registry.Tidy) (identifier : String) (descriptor : Descriptor α)
    (hid : registry.isRegistered id = true) :
    (registry.setEntry identifier descriptor).isRegistered id = true ∨
      ∃ prior, registry.get? identifier = some prior ∧ prior.id = id := by
  obtain ⟨entry, hentry, rfl⟩ := isRegistered_iff.mp hid
  by_cases hsame : entry.1 = identifier
  · exact .inr ⟨entry.2, hsame ▸ h.get?_of_mem hentry, rfl⟩
  · refine .inl (isRegistered_iff.mpr ⟨entry, List.mem_cons_of_mem _ ?_, rfl⟩)
    exact List.mem_filter.mpr ⟨hentry, by simpa using hsame⟩

/-- **A registration drops what is kept for descriptors that are out of use**, and nothing else. -/
theorem constructors_register (h : registry.Tidy)
    (hafter : registry.register identifier descriptor = .ok after) :
    after.constructors =
      registry.constructors.filter fun kept => after.isRegistered kept.1.1 := by
  have hcases {kept : (Nat × Signature) × Constructor α} (hkept : kept ∈ registry.constructors) :=
    h.isRegistered_setEntry identifier descriptor (h.used kept hkept)
  rcases register_cases hafter with ⟨rfl, hprior⟩ | ⟨prior, hget, hunused, rfl⟩
  · refine (List.filter_eq_self.mpr fun kept hkept => ?_).symm
    rcases hcases hkept with hused | ⟨prior, hget, hid⟩
    · exact hused
    · exact hid ▸ hprior prior hget
  · refine List.filter_congr fun kept hkept => ?_
    change _ = (registry.setEntry identifier descriptor).isRegistered kept.1.1
    by_cases hid : kept.1.1 = prior.id
    · rw [hid, hunused, decide_eq_false (by simp)]
    · rcases hcases hkept with hused | ⟨found, hfound, hsame⟩
      · rw [hused, decide_eq_true hid]
      · obtain rfl : prior = found := Option.some.inj (hget.symm.trans hfound)
        exact absurd hsame.symm hid

theorem register (h : registry.Tidy)
    (hafter : registry.register identifier descriptor = .ok after) : after.Tidy := by
  have hkept := h.constructors_register hafter
  refine ⟨?_, ?_, fun kept hmem => ?_⟩
  · rcases register_cases hafter with ⟨rfl, -⟩ | ⟨_, -, -, rfl⟩ <;>
      exact nodup_setEntry h.identifiers identifier descriptor
  · rw [hkept]
    exact h.keys.sublist (List.filter_sublist.map _)
  · rw [hkept] at hmem
    exact (List.mem_filter.mp hmem).2

/-! ## Constructions -/

theorem keep (h : registry.Tidy) (hid : registry.isRegistered id = true) (signature : Signature)
    (constructor : Constructor α) : (registry.keep id signature constructor).Tidy := by
  refine ⟨h.identifiers, nodup_keys_cons_filter h.keys _ _, fun kept hkept => ?_⟩
  rcases List.mem_cons.mp hkept with rfl | hkept
  · exact hid
  · exact h.used kept (List.mem_filter.mp hkept).1

theorem create (h : registry.Tidy) (identifier : String) (args : ConstructorArgs) :
    (registry.create identifier args).2.Tidy := by
  unfold Registry.create
  split
  · exact h
  · cases hget : registry.get? identifier with
    | none => exact h
    | some descriptor =>
      dsimp only
      unfold construct
      dsimp only
      split
      · exact h
      · split
        · exact h
        · refine h.keep (isRegistered_iff.mpr ?_) _ _
          exact ⟨(identifier, descriptor), mem_entries_of_get? hget, rfl⟩

/-! ## How much is kept -/

/-- **No more is kept than one constructor per signature** for what is registered. -/
theorem length_constructors_le (h : registry.Tidy) :
    registry.constructors.length ≤ 2 * registry.size := by
  have hkeys : registry.constructors.map Prod.fst ⊆
      (registry.entries.map fun entry => entry.2.id) ×ˢ [.context, .contextAndModel] := by
    intro key hkey
    obtain ⟨kept, hkept, rfl⟩ := List.mem_map.mp hkey
    obtain ⟨entry, hentry, hid⟩ := isRegistered_iff.mp (h.used kept hkept)
    refine List.mem_product.mpr ⟨List.mem_map.mpr ⟨entry, hentry, hid⟩, ?_⟩
    cases kept.1.2 <;> simp
  have hlength := (h.keys.subperm hkeys).length_le
  rw [List.length_map, List.length_product, List.length_map] at hlength
  rwa [Nat.mul_comm] at hlength

end Tidy

end Registry

/-! ## Runs of calls -/

/-- Calls that have nothing constructed but by its identifier. -/
def Call.ByIdentifier : Call α → Prop
  | .instantiate _ _ => False
  | _ => True

namespace Session

variable {session : Session α (Registry α)}

/-- **A call by identifier leaves the registry tidy**, whether it succeeds or not. -/
theorem tidy_step (h : session.store.Tidy) {call : Call α} (hcall : call.ByIdentifier) :
    (session.step .registry call).2.store.Tidy := by
  cases call with
  | describe typeName => exact h
  | extend place signature constructor =>
    simp only [step]
    split <;> exact h
  | rename place typeName =>
    simp only [step]
    split <;> exact h
  | register identifier place =>
    simp only [step, Keeper.registry]
    split
    · exact h
    · split
      · exact h
      · next hafter => exact h.register hafter
  | create identifier args => exact h.create identifier args
  | instantiate place args => exact hcall.elim

theorem tidy_after (h : session.store.Tidy) {calls : List (Call α)}
    (hcalls : ∀ call ∈ calls, call.ByIdentifier) : (session.after .registry calls).store.Tidy := by
  induction calls generalizing session with
  | nil => exact h
  | cons call calls ih =>
    obtain ⟨hcall, hcalls⟩ := List.forall_mem_cons.mp hcalls
    exact ih (tidy_step h hcall) hcalls

/-- **What is kept is in use.** After every run of registrations and constructions by identifier,
successful or not, a constructor is kept under the number and a signature of a descriptor that is
registered and supports the signature. So there are at most twice as many as identifiers. A further
registration drops what is then kept for descriptors out of use, and nothing else: nothing at all
if the descriptor takes its own place, or that of one which has another identifier. -/
theorem kept_in_use (kind : String) (next : Nat) {calls : List (Call α)}
    (h : ∀ call ∈ calls, call.ByIdentifier) :
    let start : Session α (Registry α) := { store := { kind := kind }, next := next }
    let registry := (start.after .registry calls).store
    (∀ kept ∈ registry.constructors, ∃ identifier descriptor,
      registry.get? identifier = some descriptor ∧ descriptor.id = kept.1.1 ∧
        descriptor.supports kept.1.2 = true) ∧
    (registry.constructors.map Prod.fst).Nodup ∧ registry.identifiers.Nodup ∧
    registry.constructors.length ≤ 2 * registry.size ∧
    ∀ identifier descriptor after, registry.register identifier descriptor = .ok after →
      after.constructors =
        (registry.constructors.filter fun kept => after.isRegistered kept.1.1) ∧
      ∀ prior, registry.get? identifier = some prior →
        (prior.id = descriptor.id ∨ ∃ other found, other ≠ identifier ∧
          registry.get? other = some found ∧ found.id = prior.id) →
        after.constructors = registry.constructors := by
  intro start registry
  have htidy : registry.Tidy := tidy_after (Registry.Tidy.empty kind) h
  have htracks := (Tracks.start kind next).after calls
  refine ⟨fun kept hkept => ?_, htidy.keys, ?_, htidy.length_constructors_le,
    fun identifier descriptor after hafter => ⟨htidy.constructors_register hafter,
      fun prior hget hstays => Registry.constructors_register_eq hafter hget hstays⟩⟩
  · -- The descriptor that it is kept for has the constructors of the one that is registered.
    obtain ⟨entry, hentry, hid⟩ := Registry.isRegistered_iff.mp (htidy.used kept hkept)
    obtain ⟨owner, howner, hsame, hconstructor⟩ := htracks.coherent.kept kept hkept
    have halike := htracks.numbered.alike _ (htracks.coherent.entries entry hentry) owner howner
      (hid.trans hsame.symm)
    refine ⟨entry.1, entry.2, htidy.get?_of_mem hentry, hid, ?_⟩
    rw [Descriptor.supports, halike, hconstructor, Option.isSome_some]
  · exact (List.mergeSort_perm _ _).nodup_iff.mpr htidy.identifiers

/-- A descriptor under two identifiers is replaced under the one, then under the other, and comes
back under the second. -/
theorem kept_in_use_restored :
    let args : ConstructorArgs := { request := {} }
    let calls : List (Call String) :=
      [.describe "Old", .extend 0 .context fun _ => "old", .describe "New",
        .extend 2 .context fun _ => "new", .register "a" 1, .register "b" 1, .create "a" args,
        .register "a" 3, .create "a" args]
    let more : List (Call String) := [.register "b" 3, .create "" args, .register "b" 1]
    let start : Session String (Registry String) := { store := { kind := "view" } }
    let kept (calls : List (Call String)) :=
      (start.after .registry calls).store.constructors.map Prod.fst
    (∀ call ∈ calls ++ more, call.ByIdentifier) ∧
      kept calls = [(4, .context), (2, .context)] ∧ kept (calls ++ more) = [(4, .context)] ∧
      ∃ identifier descriptor,
        (start.after .registry (calls ++ more)).store.get? identifier = some descriptor ∧
          descriptor.id = 4 ∧ descriptor.supports .context = true := by
  intro args calls more start kept
  have hcalls : ∀ call ∈ calls ++ more, call.ByIdentifier := by
    simp [calls, more, Call.ByIdentifier]
  have hkept : kept (calls ++ more) = [(4, .context)] := by decide +kernel
  refine ⟨hcalls, by decide +kernel, hkept, ?_⟩
  have hmem : (4, Signature.context) ∈ kept (calls ++ more) := hkept ▸ List.mem_cons_self
  dsimp only [kept, start] at hmem ⊢
  obtain ⟨hused, -⟩ := kept_in_use "view" 1 hcalls
  obtain ⟨entry, hentry, hkey⟩ := List.mem_map.mp hmem
  obtain ⟨identifier, descriptor, hget, hid, hsupports⟩ := hused entry hentry
  rw [hkey] at hid hsupports
  exact ⟨identifier, descriptor, hget, hid, hsupports⟩

end Session

end Folio
