import Folio.Proofs.Registry.Session
import Folio.Registry.Traffic
import Mathlib.Data.List.Induction

/-!
# Calls that cross each other

However the steps of calls to one registry are mixed, each call answers as if it had been alone at
the moment of its first step, and what is kept under a number is a constructor of the descriptor of
that number.

* `Operation.steps_eq`: the steps of a call, if no other comes between them, are the operation.
* `Operation.answer`: what an operation has to answer, going by what is registered.
* `Progress.Of`, `Progress.due?`: what a call knows was made, and what it is going to answer.
* **`Progress.step_of`**, `Progress.step_due`: no step of any call disturbs this.
* `Traffic.Sound`: the same of all calls; `Traffic.settled`: a call is settled by its first step.
* **`Traffic.answered_as_registered`**: what calls answer and leave, in whatever order they
  are moved.
* `Traffic.after_inTurn`: calls of which each begins when the one before was answered.
-/

namespace Folio

variable {α : Type} {next : Nat} {made : List (Descriptor α)} {registry : Registry α}

/-! ## Calls that nobody disturbs -/

theorem Progress.steps_answered (n : Nat) (registry : Registry α)
    (outcome : Except ConfigurationError (Option α)) :
    steps n registry (.answered outcome) = (.answered outcome, registry) := by
  induction n with
  | zero => rfl
  | succ n ih => exact ih

/-- From its descriptor on, a call that nobody disturbs constructs what the registry does. -/
theorem Progress.steps_described (registry : Registry α) (descriptor : Descriptor α)
    (args : ConstructorArgs) :
    steps 3 registry (.described descriptor args) =
      (.answered ((registry.construct descriptor args).1.map some),
        (registry.construct descriptor args).2) := by
  unfold Registry.construct
  cases hkept : registry.constructor? descriptor.id args.signature with
  | some constructor => simp only [steps, step, hkept, Except.map]
  | none =>
    cases hown : descriptor.constructor? args.signature with
    | none => simp only [steps, step, hkept, hown, Except.map]
    | some constructor => simp only [steps, step, hkept, hown, Except.map]

/-- **A call that nobody disturbs does what the operation does.** -/
theorem Operation.steps_eq (registry : Registry α) (operation : Operation α) :
    Progress.steps Progress.most registry (.asked operation) =
      (.answered (operation.alone registry).1, (operation.alone registry).2) := by
  cases operation with
  | create identifier args =>
    rw [Progress.most, alone, Registry.create]
    by_cases hidentifier : identifier = ""
    · rw [Progress.steps, Progress.step, if_pos hidentifier, if_pos hidentifier]
      exact Progress.steps_answered 3 registry _
    · rw [Progress.steps, Progress.step, if_neg hidentifier, if_neg hidentifier]
      cases registry.get? identifier with
      | none => exact Progress.steps_answered 3 registry _
      | some descriptor => exact Progress.steps_described registry descriptor args
  | instantiate descriptor args => exact Progress.steps_described registry descriptor args
  | register identifier descriptor =>
    rw [Progress.most, alone, Registry.register]
    by_cases hidentifier : identifier = ""
    · rw [Progress.steps, Progress.step, if_pos hidentifier, if_pos hidentifier]
      exact Progress.steps_answered 3 registry _
    · rw [Progress.steps, Progress.step, if_neg hidentifier, if_neg hidentifier]
      cases registry.get? identifier with
      | none => exact Progress.steps_answered 3 _ _
      | some prior =>
        dsimp only
        split
        · exact Progress.steps_answered 3 _ _
        · rw [Progress.steps, Progress.step, Registry.evictUnregistered]
          split
          · exact Progress.steps_answered 2 _ _
          · exact Progress.steps_answered 1 _ _

/-! ## What a call is going to answer -/

/-- **What an operation has to answer**, going by what is registered. -/
def Operation.answer (registry : Registry α) :
    Operation α → Except ConfigurationError (Option α)
  | .create identifier args => (registry.lookUp identifier args).map some
  | .instantiate descriptor args => (descriptor.construct args).map some
  | .register identifier _ =>
    if identifier = "" then .error (.emptyIdentifier registry.kind) else .ok none

/-- The descriptors that an operation is given were made. -/
def Operation.Of (made : List (Descriptor α)) : Operation α → Prop
  | .create _ _ => True
  | .instantiate descriptor _ | .register _ descriptor => descriptor ∈ made

/-- The descriptors that a call knows were made. -/
def Progress.Of (made : List (Descriptor α)) : Progress α → Prop
  | .asked operation => operation.Of made
  | .described descriptor _ | .missed descriptor _ => descriptor ∈ made
  | .equipped _ _ | .replaced _ | .orphaned _ | .answered _ => True

/-- What a call is going to answer, once it has begun. -/
def Progress.due? : Progress α → Option (Except ConfigurationError (Option α))
  | .asked _ => none
  | .described descriptor args | .missed descriptor args =>
    some ((descriptor.construct args).map some)
  | .equipped constructor args => some (.ok (some (constructor args)))
  | .replaced _ | .orphaned _ => some (.ok none)
  | .answered outcome => some outcome

theorem Registry.Coherent.setEntry (h : registry.Coherent made) {descriptor : Descriptor α}
    (hmade : descriptor ∈ made) (identifier : String) :
    (registry.setEntry identifier descriptor).Coherent made :=
  h.registered hmade rfl (List.Subset.refl _)

theorem Registry.constructor?_keep (registry : Registry α) (id : Nat) (signature : Signature)
    (constructor : Constructor α) :
    (registry.keep id signature constructor).constructor? id signature = some constructor := by
  unfold constructor? keep
  rw [List.find?_cons, decide_eq_true rfl]
  rfl

theorem Registry.Coherent.evict (h : registry.Coherent made) (id : Nat) :
    (registry.evict id).Coherent made :=
  ⟨h.entries, fun kept hkept => h.kept kept (List.mem_filter.mp hkept).1⟩

namespace Progress

/-- **A step keeps what is kept coherent**, and leaves a call that knows what was made. -/
theorem step_of (h : registry.Coherent made) {progress : Progress α} (hof : progress.Of made) :
    (progress.step registry).1.Of made ∧ (progress.step registry).2.Coherent made := by
  cases progress with
  | asked operation =>
    cases operation with
    | create identifier args =>
      rw [step]
      split
      · exact ⟨trivial, h⟩
      · cases hget : registry.get? identifier with
        | none => exact ⟨trivial, h⟩
        | some descriptor => exact ⟨h.entries _ (Registry.mem_entries_of_get? hget), h⟩
    | instantiate descriptor args => exact ⟨hof, h⟩
    | register identifier descriptor =>
      rw [step]
      split
      · exact ⟨trivial, h⟩
      · have hnext := h.setEntry hof identifier
        cases registry.get? identifier with
        | none => exact ⟨trivial, hnext⟩
        | some prior =>
          dsimp only
          split
          · exact ⟨trivial, hnext⟩
          · exact ⟨trivial, hnext⟩
  | described descriptor args =>
    rw [step]
    split
    · exact ⟨trivial, h⟩
    · exact ⟨hof, h⟩
  | missed descriptor args =>
    rw [step]
    cases hown : descriptor.constructor? args.signature with
    | none => exact ⟨trivial, h⟩
    | some constructor => exact ⟨trivial, h.keep hof hown⟩
  | equipped constructor args => exact ⟨trivial, h⟩
  | replaced prior =>
    rw [step]
    split
    · exact ⟨trivial, h⟩
    · exact ⟨trivial, h⟩
  | orphaned prior => exact ⟨trivial, h.evict prior⟩
  | answered outcome => exact ⟨trivial, h⟩

/-- The first step of a call settles what it is going to answer. -/
theorem due?_step_asked (registry : Registry α) (operation : Operation α) :
    (step registry (.asked operation)).1.due? = some (operation.answer registry) := by
  cases operation with
  | create identifier args =>
    rw [step, Operation.answer, Registry.lookUp]
    split
    · rfl
    · cases registry.get? identifier with
      | none => rfl
      | some descriptor => rfl
  | instantiate descriptor args => rfl
  | register identifier descriptor =>
    rw [step, Operation.answer]
    split
    · rfl
    · cases registry.get? identifier with
      | none => rfl
      | some prior =>
        dsimp only
        split
        · rfl
        · rfl

/-- **No later step changes it**, whatever the registry has become by then. -/
theorem step_due (hnumbered : Numbered next made) (h : registry.Coherent made)
    {progress : Progress α} (hof : progress.Of made)
    {outcome : Except ConfigurationError (Option α)} (hdue : progress.due? = some outcome) :
    (progress.step registry).1.due? = some outcome := by
  cases progress with
  | asked operation => cases hdue
  | described descriptor args =>
    rw [← hdue, step]
    cases hkept : registry.constructor? descriptor.id args.signature with
    | none => rfl
    | some constructor =>
      have hown := h.constructor?_own hnumbered hof hkept
      simp only [due?, Descriptor.construct, hown, Except.map]
  | missed descriptor args =>
    rw [← hdue, step]
    cases hown : descriptor.constructor? args.signature with
    | none => simp only [due?, Descriptor.construct, hown, Except.map]
    | some constructor => simp only [due?, Descriptor.construct, hown, Except.map]
  | equipped constructor args => exact hdue
  | replaced prior =>
    rw [← hdue, step]
    split
    · rfl
    · rfl
  | orphaned prior => exact hdue
  | answered outcome => exact hdue

/-- The most steps that are left to a call. -/
def left : Progress α → Nat
  | .asked _ => most
  | .described _ _ => 3
  | .missed _ _ | .replaced _ => 2
  | .equipped _ _ | .orphaned _ => 1
  | .answered _ => 0

theorem left_step (registry : Registry α) (progress : Progress α) :
    (progress.step registry).1.left ≤ progress.left - 1 := by
  fun_cases step registry progress <;> simp [left, most]

theorem exists_answered {progress : Progress α} (h : progress.left = 0) :
    ∃ outcome, progress = .answered outcome := by
  cases progress with
  | answered outcome => exact ⟨outcome, rfl⟩
  | _ => cases h

end Progress

/-! ## All calls -/

namespace Traffic

/-- **Nothing in the traffic is wrong**: what is kept is coherent, and calls know what was made. -/
structure Sound (made : List (Descriptor α)) (traffic : Traffic α) : Prop where
  coherent : traffic.registry.Coherent made
  calls : ∀ progress ∈ traffic.calls, progress.Of made

theorem step_of_some {traffic : Traffic α} {place : Nat} {progress : Progress α}
    (h : traffic.calls[place]? = some progress) :
    traffic.step place =
      { registry := (progress.step traffic.registry).2
        calls := traffic.calls.set place (progress.step traffic.registry).1 } := by
  rw [step, h]

theorem step_of_none {traffic : Traffic α} {place : Nat} (h : traffic.calls[place]? = none) :
    traffic.step place = traffic := by
  rw [step, h]

/-- The call at a place, after a call was moved. -/
theorem calls_step (traffic : Traffic α) (moved place : Nat) :
    (traffic.step moved).calls[place]? =
      if moved = place then
        traffic.calls[place]?.map fun progress => (progress.step traffic.registry).1
      else traffic.calls[place]? := by
  cases h : traffic.calls[moved]? with
  | none =>
    rw [step_of_none h]
    split
    · next hmoved => rw [← hmoved, h, Option.map_none]
    · rfl
  | some progress =>
    rw [step_of_some h, List.getElem?_set]
    split
    · next hmoved =>
      obtain ⟨hlt, -⟩ := List.getElem?_eq_some_iff.mp h
      rw [← hmoved, h, if_pos hlt, Option.map_some]
    · rfl

theorem after_concat (traffic : Traffic α) (schedule : List Nat) (place : Nat) :
    traffic.after (schedule ++ [place]) = (traffic.after schedule).step place := by
  rw [after, List.foldl_append]
  rfl

theorem Sound.step {traffic : Traffic α} (h : traffic.Sound made) (place : Nat) :
    (traffic.step place).Sound made := by
  cases hcall : traffic.calls[place]? with
  | none => rwa [step_of_none hcall]
  | some progress =>
    obtain ⟨hof, hcoherent⟩ :=
      Progress.step_of h.coherent (h.calls progress (List.mem_of_getElem? hcall))
    rw [step_of_some hcall]
    refine ⟨hcoherent, fun other hother => ?_⟩
    rcases List.mem_or_eq_of_mem_set hother with hother | rfl
    · exact h.calls other hother
    · exact hof

theorem Sound.after {traffic : Traffic α} (h : traffic.Sound made) (schedule : List Nat) :
    (traffic.after schedule).Sound made := by
  induction schedule generalizing traffic with
  | nil => exact h
  | cons place schedule ih => exact ih (h.step place)

theorem Sound.start (h : registry.Coherent made) {operations : List (Operation α)}
    (hmade : ∀ operation ∈ operations, operation.Of made) :
    (start registry operations).Sound made := by
  refine ⟨h, fun progress hprogress => ?_⟩
  obtain ⟨operation, hoperation, rfl⟩ := List.mem_map.mp hprogress
  exact hmade operation hoperation

/-- How a call stands after a schedule: it was not moved, or its first step settled what it is
going to answer, by what was registered then. -/
inductive Stands (begin : Traffic α) (schedule : List Nat) (place : Nat)
    (operation : Operation α) : Progress α → Prop
  | waiting (h : place ∉ schedule) : Stands begin schedule place operation (.asked operation)
  | begun {before after : List Nat} {progress : Progress α}
    (hschedule : schedule = before ++ place :: after) (hfirst : place ∉ before)
    (hdue : progress.due? = some (operation.answer (begin.after before).registry)) :
    Stands begin schedule place operation progress

theorem append_cons_concat {schedule before after : List Nat} {place : Nat}
    (h : schedule = before ++ place :: after) (moved : Nat) :
    schedule ++ [moved] = before ++ place :: (after ++ [moved]) := by
  rw [h, List.append_assoc, List.cons_append]

variable {begin : Traffic α}

/-- **The first step of a call settles its answer**, whatever is moved before, between and after. -/
theorem settled (hnumbered : Numbered next made) (h : begin.Sound made) {place : Nat}
    {operation : Operation α} (hplace : begin.calls[place]? = some (.asked operation))
    (schedule : List Nat) :
    ∃ progress, (begin.after schedule).calls[place]? = some progress ∧
      Stands begin schedule place operation progress := by
  -- Each case of how the call stood is carried over one more move, of this call or of another.
  induction schedule using List.reverseRecOn with
  | nil => exact ⟨_, hplace, .waiting List.not_mem_nil⟩
  | append_singleton schedule moved ih =>
    obtain ⟨progress, hcall, hstands⟩ := ih
    have hsound := h.after schedule
    rw [after_concat, calls_step, hcall]
    split
    · next hmoved =>
      subst hmoved
      refine ⟨_, rfl, ?_⟩
      cases hstands with
      | waiting hno => exact .begun rfl hno (Progress.due?_step_asked _ operation)
      | begun hschedule hfirst hdue =>
        have hof := hsound.calls progress (List.mem_of_getElem? hcall)
        exact .begun (append_cons_concat hschedule moved) hfirst
          (Progress.step_due hnumbered hsound.coherent hof hdue)
    · next hmoved =>
      refine ⟨progress, rfl, ?_⟩
      cases hstands with
      | waiting hno =>
        refine .waiting fun hmem => ?_
        rcases List.mem_append.mp hmem with hmem | hmem
        · exact hno hmem
        · exact hmoved (List.mem_singleton.mp hmem).symm
      | begun hschedule hfirst hdue =>
        exact .begun (append_cons_concat hschedule moved) hfirst hdue

/-- A call gets nearer to its end whenever it is moved. -/
theorem left_after {place : Nat} {progress : Progress α}
    (h : begin.calls[place]? = some progress) (schedule : List Nat) :
    ∃ last, (begin.after schedule).calls[place]? = some last ∧
      last.left ≤ progress.left - schedule.count place := by
  induction schedule generalizing begin progress with
  | nil => exact ⟨progress, h, Nat.le_refl _⟩
  | cons moved schedule ih =>
    have hcalls := calls_step begin moved place
    rw [h] at hcalls
    by_cases hmoved : moved = place
    · rw [if_pos hmoved, Option.map_some] at hcalls
      obtain ⟨last, hlast, hleft⟩ := ih hcalls
      have hstep := progress.left_step begin.registry
      refine ⟨last, hlast, ?_⟩
      rw [hmoved, List.count_cons_self]
      omega
    · rw [if_neg hmoved] at hcalls
      obtain ⟨last, hlast, hleft⟩ := ih hcalls
      refine ⟨last, hlast, ?_⟩
      rwa [List.count_cons_of_ne hmoved]

/-- **A call that missed leaves the descriptor's own constructor** where it looked, if there is
one. -/
theorem Sound.filled (hnumbered : Numbered next made) {traffic : Traffic α}
    (h : traffic.Sound made) {place : Nat} {descriptor : Descriptor α} {args : ConstructorArgs}
    (hcall : traffic.calls[place]? = some (.missed descriptor args)) :
    (traffic.step place).registry.constructor? descriptor.id args.signature =
      descriptor.constructor? args.signature := by
  have hmade : descriptor ∈ made := h.calls _ (List.mem_of_getElem? hcall)
  rw [step_of_some hcall, Progress.step]
  cases hown : descriptor.constructor? args.signature with
  | some constructor => exact Registry.constructor?_keep ..
  | none =>
    cases hkept : traffic.registry.constructor? descriptor.id args.signature with
    | none => rfl
    | some constructor =>
      rw [h.coherent.constructor?_own hnumbered hmade hkept] at hown
      cases hown

/-- A call that is not moved stays where it was. -/
theorem calls_after_of_not_mem {place : Nat} {schedule : List Nat} (h : place ∉ schedule) :
    (begin.after schedule).calls[place]? = begin.calls[place]? := by
  induction schedule generalizing begin with
  | nil => rfl
  | cons moved schedule ih =>
    obtain ⟨hmoved, hrest⟩ := List.ne_and_not_mem_of_not_mem_cons h
    have hstep := calls_step begin moved place
    rw [if_neg hmoved.symm] at hstep
    exact (ih hrest).trans hstep

/-- **Two calls that both missed leave the same constructor**, whatever comes between them. -/
theorem Sound.filled_twice (hnumbered : Numbered next made) {traffic : Traffic α}
    (h : traffic.Sound made) {first second : Nat} {descriptor other : Descriptor α}
    {args args' : ConstructorArgs} {between : List Nat}
    (hfirst : traffic.calls[first]? = some (.missed descriptor args))
    (hsecond : traffic.calls[second]? = some (.missed other args'))
    (hid : descriptor.id = other.id) (hsignature : args.signature = args'.signature)
    (hne : first ≠ second) (hno : second ∉ between) :
    (traffic.after (first :: between ++ [second])).registry.constructor? descriptor.id
      args.signature = descriptor.constructor? args.signature := by
  have hlater : ((traffic.step first).after between).calls[second]? =
      some (.missed other args') := by
    rw [calls_after_of_not_mem hno, calls_step, if_neg hne, hsecond]
  have hfilled := ((h.step first).after between).filled hnumbered hlater
  have hmade : descriptor ∈ made := h.calls _ (List.mem_of_getElem? hfirst)
  have hmade' : other ∈ made := h.calls _ (List.mem_of_getElem? hsecond)
  rw [after_concat, hid, hsignature, hnumbered.alike descriptor hmade other hmade' hid]
  exact hfilled

/-- **Calls that cross each other.** In whatever order calls to a registry are moved, a call that
is answered has the answer that the registrations gave at the moment of its first step: for a thing
to be created, what the descriptor registered under its identifier constructs by a constructor of
its own, and never what is kept for another. What is kept under a number is a constructor of the
descriptor of that number; two calls that both found nothing leave the same constructor, whatever
happens between them; and a call is answered when it was moved four times. -/
theorem answered_as_registered (hnumbered : Numbered next made) (hcoherent : registry.Coherent made)
    {operations : List (Operation α)} (hmade : ∀ operation ∈ operations, operation.Of made)
    (schedule : List Nat) :
    let begin := start registry operations
    let traffic := begin.after schedule
    (∀ (place : Nat) operation outcome, operations[place]? = some operation →
      traffic.calls[place]? = some (.answered outcome) →
      ∃ before after, schedule = before ++ place :: after ∧ place ∉ before ∧
        outcome = operation.answer (begin.after before).registry) ∧
    (∀ kept ∈ traffic.registry.constructors,
      (∃ descriptor ∈ made, descriptor.id = kept.1.1) ∧
      ∀ descriptor ∈ made, descriptor.id = kept.1.1 →
        descriptor.constructor? kept.1.2 = some kept.2) ∧
    (∀ (first second : Nat) descriptor other args args' between,
      traffic.calls[first]? = some (.missed descriptor args) →
      traffic.calls[second]? = some (.missed other args') →
      descriptor.id = other.id → args.signature = args'.signature →
      first ≠ second → second ∉ between →
      (traffic.step first).registry.constructor? descriptor.id args.signature =
          descriptor.constructor? args.signature ∧
        (traffic.after (first :: between ++ [second])).registry.constructor? descriptor.id
          args.signature = descriptor.constructor? args.signature) ∧
    ∀ (place : Nat) operation, operations[place]? = some operation →
      Progress.most ≤ schedule.count place →
      ∃ outcome, traffic.calls[place]? = some (.answered outcome) := by
  intro begin traffic
  have hbegin : begin.Sound made := Sound.start hcoherent hmade
  have hsound : traffic.Sound made := hbegin.after schedule
  have hasked {place : Nat} {operation : Operation α}
      (hplace : operations[place]? = some operation) :
      begin.calls[place]? = some (.asked operation) := by
    rw [show begin.calls = operations.map .asked from rfl, List.getElem?_map, hplace]
    rfl
  refine ⟨fun place operation outcome hplace houtcome => ?_, fun kept hkept => ?_,
    fun first second descriptor other args args' between hfirst hsecond hid hsignature hne hno =>
      ?_,
    fun place operation hplace hcount => ?_⟩
  · obtain ⟨progress, hprogress, hstands⟩ := settled hnumbered hbegin (hasked hplace) schedule
    obtain rfl : .answered outcome = progress := Option.some.inj (houtcome.symm.trans hprogress)
    cases hstands with
    | begun hschedule hno hdue => exact ⟨_, _, hschedule, hno, Option.some.inj hdue⟩
  · obtain ⟨owner, howner, hid, hown⟩ := hsound.coherent.kept kept hkept
    refine ⟨⟨owner, howner, hid⟩, fun descriptor hdescriptor hsame => ?_⟩
    rw [hnumbered.alike descriptor hdescriptor owner howner (hsame.trans hid.symm), hown]
  · exact ⟨hsound.filled hnumbered hfirst,
      hsound.filled_twice hnumbered hfirst hsecond hid hsignature hne hno⟩
  · obtain ⟨last, hlast, hleft⟩ := left_after (hasked hplace) schedule
    rw [show (Progress.asked operation).left = Progress.most from rfl,
      Nat.sub_eq_zero_of_le hcount] at hleft
    obtain ⟨outcome, rfl⟩ := Progress.exists_answered (Nat.le_zero.mp hleft)
    exact ⟨outcome, hlast⟩

/-- A descriptor is replaced, and what was kept for it is dropped, while a call is on its way that
has read the identifier before. -/
theorem answered_as_registered_late :
    let old : Descriptor String :=
      { id := 1, typeName := "Old", fromContext := some fun _ => "old" }
    let new : Descriptor String :=
      { id := 2, typeName := "New", fromContext := some fun _ => "new" }
    let args : ConstructorArgs := { request := {} }
    let registry : Registry String := { kind := "view", entries := [("x", old)] }
    let operations := [.create "x" args, .register "x" new, .create "x" args]
    let schedule := [0, 1, 1, 1, 0, 0, 0, 2, 2, 2, 2]
    let begin := start registry operations
    let traffic := begin.after schedule
    Numbered 3 [old, new] ∧ registry.Coherent [old, new] ∧
      (∀ operation ∈ operations, operation.Of [old, new]) ∧
      (traffic.calls.map fun call => call.due?.bind Except.toOption) =
        [some (some "old"), some none, some (some "new")] ∧
      traffic.registry.constructors.map Prod.fst = [(2, .context), (1, .context)] ∧
      ∃ outcome, traffic.calls[0]? = some (.answered outcome) ∧
        ∃ before after, schedule = before ++ 0 :: after ∧ 0 ∉ before ∧
          outcome = ((begin.after before).registry.lookUp "x" args).map some := by
  intro old new args registry operations schedule begin traffic
  have hold : Numbered 2 ([] ++ [old]) := (Numbered.nil 1).fresh rfl
  have hnumbered : Numbered 3 ([old] ++ [new]) := hold.fresh rfl
  have hcoherent : registry.Coherent [old, new] :=
    ⟨List.forall_mem_singleton.mpr List.mem_cons_self, List.forall_mem_nil _⟩
  have hmade : ∀ operation ∈ operations, operation.Of [old, new] := by
    simp [operations, Operation.Of]
  obtain ⟨hanswers, -, -, hends⟩ := answered_as_registered hnumbered hcoherent hmade schedule
  obtain ⟨outcome, houtcome⟩ := hends 0 _ rfl (by decide)
  exact ⟨hnumbered, hcoherent, hmade, by decide +kernel, by decide +kernel, outcome, houtcome,
    hanswers 0 _ _ rfl houtcome⟩

/-! ## Calls one after the other -/

theorem after_replicate {traffic : Traffic α} {place : Nat} {progress : Progress α}
    (h : traffic.calls[place]? = some progress) (n : Nat) :
    traffic.after (List.replicate n place) =
      { registry := (progress.steps n traffic.registry).2
        calls := traffic.calls.set place (progress.steps n traffic.registry).1 } := by
  induction n generalizing traffic progress with
  | zero =>
    obtain ⟨hplace, rfl⟩ := List.getElem?_eq_some_iff.mp h
    exact congrArg (Traffic.mk _) (List.set_getElem_self hplace).symm
  | succ n ih =>
    have hstep : (traffic.step place).calls[place]? =
        some (progress.step traffic.registry).1 := by
      rw [calls_step, if_pos rfl, h, Option.map_some]
    rw [List.replicate_succ, after, List.foldl_cons]
    refine (ih hstep).trans ?_
    rw [step_of_some h, List.set_set]
    rfl

/-- Operations that are done one after the other: what they answer, and the registry then. -/
def inOrder (registry : Registry α) :
    List (Operation α) → List (Except ConfigurationError (Option α)) × Registry α
  | [] => ([], registry)
  | operation :: operations =>
    let (outcome, registry) := operation.alone registry
    let (outcomes, registry) := inOrder registry operations
    (outcome :: outcomes, registry)

/-- The schedule that moves one call after the other to its end, beginning at a place. -/
def inTurn (first count : Nat) : List Nat :=
  (List.range' first count).flatMap fun place => List.replicate Progress.most place

/-- **Calls of which each begins when the one before was answered** do what the operations do one
after the other. -/
theorem after_inTurn (done : List (Progress α)) (registry : Registry α)
    (operations : List (Operation α)) :
    ({ registry := registry, calls := done ++ operations.map .asked } : Traffic α).after
        (inTurn done.length operations.length) =
      { registry := (inOrder registry operations).2
        calls := done ++ (inOrder registry operations).1.map .answered } := by
  induction operations generalizing done registry with
  | nil => rfl
  | cons operation operations ih =>
    have hplace : (done ++ (operation :: operations).map Progress.asked)[done.length]? =
        some (.asked operation) := by
      rw [List.getElem?_append_right (Nat.le_refl _), Nat.sub_self]
      rfl
    have hturn : inTurn done.length (operations.length + 1) =
        List.replicate Progress.most done.length ++
          inTurn (done ++ [Progress.answered (operation.alone registry).1]).length
            operations.length := by
      rw [inTurn, List.range'_succ, List.flatMap_cons, List.length_append]
      rfl
    have hfirst : ({ registry := registry, calls := done ++ (operation :: operations).map .asked }
        : Traffic α).after (List.replicate Progress.most done.length) =
        { registry := (operation.alone registry).2
          calls :=
            (done ++ [.answered (operation.alone registry).1]) ++ operations.map .asked } := by
      rw [after_replicate hplace, Operation.steps_eq, List.set_append_right _ _ (Nat.le_refl _),
        Nat.sub_self, List.append_assoc]
      rfl
    rw [List.length_cons, hturn, after, List.foldl_append]
    refine (congrArg (after · _) hfirst).trans ((ih _ _).trans ?_)
    rw [List.append_assoc]
    rfl

end Traffic

end Folio
