import Folio.Proofs.Registry.Lookup
import Folio.Shutdown
import Mathlib.Data.Set.Card

/-!
# No announcement is missed

Only the latest announcement is kept, and each listener knows how many it has seen. So a listener
has a number of announcements before it, which its own looks and the announcements alone change: it
finds nothing if there are none, the announcement if there is one, and the number of those that it
missed before the latest if there are more.

* `Shutdown.Sound`: no name listens twice, and nobody has seen more than was announced;
  `Shutdown.sound_run`.
* `answerTo`, `remaining`: what a listener finds that has so many announcements before it, and how
  many are left; `Shutdown.look_eq`.
* `Shutdown.unread?`, `ShutdownStep.counted`, **`Shutdown.unread?_step`**: the announcements before
  a listener.
* `Shutdown.heard`, `Shutdown.heard_filter`: what a listener finds in the course of a history; steps
  of others do not matter.
* `Shutdown.unread_heard`: what is announced is told or left; `drained`, `Shutdown.heard_drains`:
  what is found of it while nothing more is announced.
* `Shutdown.Listens`, `Shutdown.listenerCount_run`: who listens.
* **`Shutdown.never_missed`**: all of this together.
-/

namespace Folio

/-! ## Looking -/

/-- What a listener finds that has so many announcements before it. -/
def answerTo : Nat → Received
  | 0 => .empty
  | 1 => .signal
  | missed + 2 => .lagged (missed + 1)

/-- How many announcements are left before a listener that looked. -/
def remaining : Nat → Nat
  | 0 | 1 => 0
  | _ + 2 => 1

/-- How many announcements a listener is told of. -/
def Received.told : Received → Nat
  | .signal => 1
  | .empty => 0
  | .lagged missed => missed

theorem told_answerTo (unread : Nat) : (answerTo unread).told + remaining unread = unread := by
  match unread with
  | 0 | 1 | _ + 2 => rfl

theorem remaining_le (unread : Nat) : remaining unread ≤ unread := by
  have := told_answerTo unread
  omega

namespace Shutdown

variable {shutdown : Shutdown} {name : String}

theorem look_eq {sent seen : Nat} (h : seen ≤ sent) :
    look sent seen = (answerTo (sent - seen), sent - remaining (sent - seen)) := by
  unfold look
  obtain ⟨unread, rfl⟩ := Nat.exists_eq_add_of_le h
  rw [Nat.add_sub_cancel_left]
  match unread with
  | 0 =>
    rw [if_pos (by omega)]
    rfl
  | 1 =>
    rw [if_neg (by omega), if_pos (by omega)]
    rfl
  | missed + 2 =>
    rw [if_neg (by omega), if_neg (by omega)]
    rfl

/-! ## Listeners -/

/-- **No name listens twice, and nobody has seen more than was announced.** -/
structure Sound (shutdown : Shutdown) : Prop where
  names : (shutdown.listeners.map Prod.fst).Nodup
  seen : ∀ listener ∈ shutdown.listeners, listener.2 ≤ shutdown.sent

theorem seen?_subscribe (shutdown : Shutdown) (name other : String) :
    (shutdown.subscribe name).seen? other =
      if other = name then some shutdown.sent else shutdown.seen? other := by
  unfold seen? subscribe others
  dsimp only
  rw [List.find?_cons, find?_filter_key]
  by_cases h : other = name
  · rw [decide_eq_true h.symm]
    exact (if_pos h).symm
  · rw [if_neg h, if_neg h, decide_eq_false (Ne.symm h)]

theorem seen?_unsubscribe (shutdown : Shutdown) (name other : String) :
    (shutdown.unsubscribe name).seen? other =
      if other = name then none else shutdown.seen? other := by
  unfold seen? unsubscribe others
  dsimp only
  rw [find?_filter_key]
  split <;> rfl

theorem seen?_trigger (shutdown : Shutdown) (name : String) :
    shutdown.trigger.seen? name = shutdown.seen? name := by
  unfold trigger
  split <;> rfl

theorem seen?_setSeen (shutdown : Shutdown) (name other : String) (seen : Nat) :
    (shutdown.setSeen name seen).seen? other =
      if other = name then (shutdown.seen? other).map fun _ => seen else shutdown.seen? other := by
  unfold seen? setSeen
  dsimp only
  have hkey : (fun listener => decide (listener.1 = other)) ∘
      (fun listener : String × Nat => if listener.1 = name then (name, seen) else listener) =
        fun listener => decide (listener.1 = other) := by
    funext listener
    by_cases h : listener.1 = name <;> simp [h]
  rw [List.find?_map, hkey]
  cases hfound : shutdown.listeners.find? fun listener => decide (listener.1 = other) with
  | none => simp
  | some listener =>
    obtain rfl : listener.1 = other := by simpa using List.find?_some hfound
    by_cases h : listener.1 = name <;> simp [h]

theorem sent_trigger (h : (shutdown.seen? name).isSome = true) :
    shutdown.trigger.sent = shutdown.sent + 1 := by
  unfold trigger
  rw [if_neg]
  intro hempty
  rw [seen?, List.isEmpty_iff.mp hempty] at h
  cases h

/-- A listener looks, if anyone of that name listens. -/
theorem receive_eq (shutdown : Shutdown) (name : String) :
    shutdown.receive name =
      ((shutdown.seen? name).map fun seen => (look shutdown.sent seen).1,
        (shutdown.seen? name).elim shutdown fun seen =>
          shutdown.setSeen name (look shutdown.sent seen).2) := by
  unfold receive
  cases shutdown.seen? name <;> rfl

theorem sent_receive (shutdown : Shutdown) (name : String) :
    (shutdown.receive name).2.sent = shutdown.sent := by
  rw [receive_eq]
  cases shutdown.seen? name <;> rfl

theorem seen?_receive (shutdown : Shutdown) (name other : String) :
    (shutdown.receive name).2.seen? other =
      if other = name then (shutdown.seen? other).map fun seen => (look shutdown.sent seen).2
      else shutdown.seen? other := by
  rw [receive_eq]
  cases hseen : shutdown.seen? name with
  | none =>
    dsimp only [Option.elim]
    split
    · next hother => rw [hother, hseen, Option.map_none]
    · rfl
  | some seen =>
    dsimp only [Option.elim]
    rw [seen?_setSeen]
    split
    · next hother => rw [hother, hseen, Option.map_some, Option.map_some]
    · rfl

namespace Sound

theorem empty : Sound {} := ⟨List.nodup_nil, List.forall_mem_nil _⟩

theorem seen?_le (h : shutdown.Sound) {seen : Nat} (hseen : shutdown.seen? name = some seen) :
    seen ≤ shutdown.sent :=
  h.seen _ (mem_of_find?_key hseen)

theorem subscribe (h : shutdown.Sound) (name : String) : (shutdown.subscribe name).Sound := by
  refine ⟨nodup_keys_cons_filter h.names name shutdown.sent, fun listener hlistener => ?_⟩
  rcases List.mem_cons.mp hlistener with rfl | hlistener
  · exact Nat.le_refl _
  · exact h.seen listener (List.mem_filter.mp hlistener).1

theorem unsubscribe (h : shutdown.Sound) (name : String) : (shutdown.unsubscribe name).Sound :=
  ⟨h.names.sublist (List.filter_sublist.map _),
    fun listener hlistener => h.seen listener (List.mem_filter.mp hlistener).1⟩

theorem trigger (h : shutdown.Sound) : shutdown.trigger.Sound := by
  unfold Shutdown.trigger
  split
  · exact h
  · exact ⟨h.names, fun listener hlistener => Nat.le_succ_of_le (h.seen listener hlistener)⟩

theorem setSeen (h : shutdown.Sound) (name : String) {seen : Nat} (hseen : seen ≤ shutdown.sent) :
    (shutdown.setSeen name seen).Sound := by
  have hnames : (shutdown.setSeen name seen).listeners.map Prod.fst =
      shutdown.listeners.map Prod.fst := by
    rw [Shutdown.setSeen, List.map_map]
    refine List.map_congr_left fun listener _ => ?_
    by_cases hsame : listener.1 = name <;> simp [hsame]
  refine ⟨hnames ▸ h.names, fun listener hlistener => ?_⟩
  obtain ⟨before, hbefore, rfl⟩ := List.mem_map.mp hlistener
  split
  · exact hseen
  · exact h.seen before hbefore

theorem receive (h : shutdown.Sound) (name : String) : (shutdown.receive name).2.Sound := by
  rw [receive_eq]
  cases hseen : shutdown.seen? name with
  | none => exact h
  | some seen =>
    refine h.setSeen name ?_
    rw [look_eq (h.seen?_le hseen)]
    exact Nat.sub_le _ _

theorem step (h : shutdown.Sound) (step : ShutdownStep) : (shutdown.step step).Sound := by
  cases step with
  | clone => exact h
  | subscribe name => exact h.subscribe name
  | trigger => exact h.trigger
  | receive name => exact h.receive name
  | unsubscribe name => exact h.unsubscribe name

theorem run (h : shutdown.Sound) (steps : List ShutdownStep) : (shutdown.run steps).Sound := by
  induction steps generalizing shutdown with
  | nil => exact h
  | cons step steps ih => exact ih (h.step step)

end Sound

/-! ## What is before a listener -/

/-- The announcements before a listener, none if nobody of that name listens. -/
def unread? (shutdown : Shutdown) (name : String) : Option Nat :=
  (shutdown.seen? name).map (shutdown.sent - ·)

end Shutdown

/-- How a step changes the announcements before a listener. -/
def ShutdownStep.counted (name : String) (unread : Option Nat) : ShutdownStep → Option Nat
  | .clone => unread
  | .subscribe other => if name = other then some 0 else unread
  | .trigger => unread.map (· + 1)
  | .receive other => if name = other then unread.map remaining else unread
  | .unsubscribe other => if name = other then none else unread

namespace Shutdown

variable {shutdown : Shutdown} {name : String}

/-- **A listener finds what is before it.** -/
theorem received_eq (h : shutdown.Sound) (name : String) :
    (shutdown.receive name).1 = (shutdown.unread? name).map answerTo := by
  rw [receive_eq, unread?]
  cases hseen : shutdown.seen? name with
  | none => rfl
  | some seen =>
    simp only [Option.map_some]
    rw [look_eq (h.seen?_le hseen)]

/-- **What is before a listener is changed by its own steps and by announcements only.** -/
theorem unread?_step (h : shutdown.Sound) (step : ShutdownStep) (name : String) :
    (shutdown.step step).unread? name = step.counted name (shutdown.unread? name) := by
  cases step with
  | clone => rfl
  | subscribe other =>
    simp only [Shutdown.step, ShutdownStep.counted, unread?, seen?_subscribe]
    split
    · simp [Shutdown.subscribe]
    · rfl
  | unsubscribe other =>
    simp only [Shutdown.step, ShutdownStep.counted, unread?, seen?_unsubscribe]
    split <;> rfl
  | trigger =>
    simp only [Shutdown.step, ShutdownStep.counted, unread?, seen?_trigger]
    cases hseen : shutdown.seen? name with
    | none => rfl
    | some seen =>
      have hle := h.seen?_le hseen
      rw [sent_trigger (Option.isSome_of_eq_some hseen)]
      simp only [Option.map_some, Nat.sub_add_comm hle]
  | receive other =>
    simp only [Shutdown.step, ShutdownStep.counted, unread?, seen?_receive, sent_receive]
    split
    · cases hseen : shutdown.seen? name with
      | none => rfl
      | some seen =>
        have hle := h.seen?_le hseen
        have hleft := (remaining_le (shutdown.sent - seen)).trans (Nat.sub_le _ _)
        simp only [Option.map_some, look_eq hle, Nat.sub_sub_self hleft]
    · rfl

/-! ## What a listener finds -/

/-- What a listener finds in a step, if it looks. -/
def found (shutdown : Shutdown) (name : String) : ShutdownStep → Option Received
  | .receive other => if name = other then (shutdown.receive name).1 else none
  | _ => none

/-- **What a listener finds in the course of a history.** -/
def heard (name : String) : Shutdown → List ShutdownStep → List Received
  | _, [] => []
  | shutdown, step :: steps =>
    (shutdown.found name step).toList ++ heard name (shutdown.step step) steps

end Shutdown

namespace ShutdownStep

variable {name : String} {unread : Option Nat} {step : ShutdownStep}

/-- What a listener finds in a step that has so many announcements before it. -/
def answered (name : String) (unread : Option Nat) : ShutdownStep → Option Received
  | .receive other => if name = other then unread.map answerTo else none
  | _ => none

/-- Is the step an announcement, or one of this listener? -/
def concerns (name : String) : ShutdownStep → Bool
  | .clone => false
  | .trigger => true
  | .subscribe other | .receive other | .unsubscribe other => name = other

/-- The step neither begins nor ends that anyone of this name listens. -/
def Keeps (name : String) (step : ShutdownStep) : Prop :=
  step ≠ .subscribe name ∧ step ≠ .unsubscribe name

theorem counted_of_not_concerns (h : step.concerns name = false) :
    step.counted name unread = unread := by
  cases step <;> simp_all [concerns, counted]

theorem answered_of_not_concerns (h : step.concerns name = false) :
    step.answered name unread = none := by
  cases step <;> simp_all [concerns, answered]

/-- What is announced in a step is told in it or left before a listener. -/
theorem counted_keeping (h : step.Keeps name) (unread : Nat) :
    ∃ left, step.counted name (some unread) = some left ∧
      left + (step.answered name (some unread)).elim 0 Received.told =
        unread + [step].count .trigger := by
  cases step with
  | clone => exact ⟨unread, rfl, rfl⟩
  | trigger => exact ⟨unread + 1, rfl, rfl⟩
  | subscribe other =>
    have hother : name ≠ other := fun hsame => h.1 (hsame ▸ rfl)
    exact ⟨unread, if_neg hother, rfl⟩
  | unsubscribe other =>
    have hother : name ≠ other := fun hsame => h.2 (hsame ▸ rfl)
    exact ⟨unread, if_neg hother, rfl⟩
  | receive other =>
    by_cases hsame : name = other
    · refine ⟨remaining unread, if_pos hsame, ?_⟩
      rw [answered, if_pos hsame, Nat.add_comm]
      exact told_answerTo unread
    · refine ⟨unread, if_neg hsame, ?_⟩
      rw [answered, if_neg hsame]
      rfl

end ShutdownStep

/-- What a listener has yet to find that has so many announcements before it. -/
def outstanding : Nat → List Received
  | 0 => []
  | 1 => [.signal]
  | missed + 2 => [.lagged (missed + 1), .signal]

/-- What a listener finds that looks so many times while nothing is announced. -/
def drained (unread looks : Nat) : List Received :=
  (outstanding unread).take looks ++
    List.replicate (looks - (outstanding unread).length) .empty

theorem drained_succ (unread looks : Nat) :
    drained unread (looks + 1) = answerTo unread :: drained (remaining unread) looks := by
  match unread with
  | 0 | 1 | _ + 2 => simp [drained, outstanding, answerTo, remaining, List.replicate_succ]

namespace Shutdown

variable {shutdown : Shutdown} {name : String}

theorem found_eq (h : shutdown.Sound) (name : String) (step : ShutdownStep) :
    shutdown.found name step = step.answered name (shutdown.unread? name) := by
  cases step with
  | receive other => rw [found, ShutdownStep.answered, received_eq h]
  | _ => rfl

/-- **What a listener finds depends on its own steps and on announcements only.** -/
theorem heard_filter (h : shutdown.Sound) {other : Shutdown} (hother : other.Sound)
    (hsame : shutdown.unread? name = other.unread? name) (steps : List ShutdownStep) :
    heard name shutdown steps = heard name other (steps.filter (ShutdownStep.concerns name)) := by
  -- The two may differ in all but what is before this listener, and stay so step by step.
  induction steps generalizing shutdown other with
  | nil => rfl
  | cons step steps ih =>
    have hnext := unread?_step h step name
    cases hconcerns : step.concerns name with
    | false =>
      rw [ShutdownStep.counted_of_not_concerns hconcerns, hsame] at hnext
      rw [heard, found_eq h, ShutdownStep.answered_of_not_concerns hconcerns,
        List.filter_cons_of_neg (by simp [hconcerns])]
      exact ih (h.step step) hother hnext
    | true =>
      rw [List.filter_cons_of_pos hconcerns, heard, heard, found_eq h, found_eq hother, hsame]
      congr 1
      refine ih (h.step step) (hother.step step) ?_
      rw [hnext, unread?_step hother, hsame]

/-- **What is announced is told or left.** -/
theorem unread_heard (h : shutdown.Sound) {unread : Nat}
    (hunread : shutdown.unread? name = some unread) {steps : List ShutdownStep}
    (hsteps : ∀ step ∈ steps, step.Keeps name) :
    ∃ left, (shutdown.run steps).unread? name = some left ∧
      left + ((heard name shutdown steps).map Received.told).sum =
        unread + steps.count .trigger := by
  induction steps generalizing shutdown unread with
  | nil => exact ⟨unread, hunread, rfl⟩
  | cons step steps ih =>
    obtain ⟨hstep, hsteps⟩ := List.forall_mem_cons.mp hsteps
    obtain ⟨next, hnext, htold⟩ := ShutdownStep.counted_keeping hstep unread
    have hunread' := (unread?_step h step name).trans (hunread ▸ hnext)
    obtain ⟨left, hleft, hrest⟩ := ih (h.step step) hunread' hsteps
    refine ⟨left, hleft, ?_⟩
    have hfound : ((shutdown.found name step).toList.map Received.told).sum =
        (step.answered name (some unread)).elim 0 Received.told := by
      rw [found_eq h, hunread]
      cases step.answered name (some unread) <;> simp
    have hcount : (step :: steps).count .trigger =
        [step].count .trigger + steps.count .trigger := by
      rw [← List.count_append, List.singleton_append]
    rw [heard, List.map_append, List.sum_append, hfound, hcount]
    omega

/-- **While nothing is announced, a listener finds what is outstanding** and then nothing more. -/
theorem heard_drains (h : shutdown.Sound) {unread : Nat}
    (hunread : shutdown.unread? name = some unread) {steps : List ShutdownStep}
    (hsteps : ∀ step ∈ steps, step.Keeps name ∧ step ≠ .trigger) :
    heard name shutdown steps = drained unread (steps.count (.receive name)) := by
  induction steps generalizing shutdown unread with
  | nil => simp [heard, drained]
  | cons step steps ih =>
    obtain ⟨⟨hkeeps, hquiet⟩, hrest⟩ := List.forall_mem_cons.mp hsteps
    have hnext := unread?_step h step name
    rw [heard, found_eq h]
    rw [hunread] at hnext ⊢
    by_cases hlook : step = .receive name
    · subst hlook
      rw [List.count_cons_self, drained_succ]
      have hcounted : ShutdownStep.counted name (some unread) (.receive name) =
          some (remaining unread) := if_pos rfl
      have hanswered : ShutdownStep.answered name (some unread) (.receive name) =
          some (answerTo unread) := if_pos rfl
      rw [hanswered, ih (h.step _) (hnext.trans hcounted) hrest]
      rfl
    · rw [List.count_cons_of_ne hlook]
      have hconcerns : step.concerns name = false := by
        cases step <;> simp_all [ShutdownStep.concerns, ShutdownStep.Keeps, eq_comm]
      rw [ShutdownStep.counted_of_not_concerns hconcerns] at hnext
      rw [ShutdownStep.answered_of_not_concerns hconcerns, ih (h.step step) hnext hrest]
      rfl

/-- Nothing changes where a listener has seen what it is set to. -/
theorem Sound.setSeen_self (h : shutdown.Sound) {seen : Nat}
    (hseen : shutdown.seen? name = some seen) : shutdown.setSeen name seen = shutdown := by
  have hsame : ∀ listener ∈ shutdown.listeners,
      (if listener.1 = name then (name, seen) else listener) = listener := by
    intro listener hlistener
    split
    · next hname =>
      have hfound := find?_of_mem_key h.names hlistener
      rw [hname] at hfound
      exact Prod.ext hname.symm (Option.some.inj (hseen.symm.trans hfound))
    · rfl
  rw [Shutdown.setSeen, List.map_congr_left hsame, List.map_id']

/-- A listener that has nothing before it finds nothing, and nothing changes. -/
theorem receive_of_unread_zero (h : shutdown.Sound) (hunread : shutdown.unread? name = some 0) :
    shutdown.receive name = (some .empty, shutdown) := by
  obtain ⟨seen, hseen, hnone⟩ := Option.map_eq_some_iff.mp hunread
  have hlook : look shutdown.sent seen = (.empty, seen) := by
    rw [look, if_pos (Nat.sub_eq_zero_iff_le.mp hnone)]
  rw [receive_eq, hseen, Option.map_some, Option.elim_some, hlook, h.setSeen_self hseen]

/-! ## Who listens -/

/-- Someone of a name listens after a history: the name began to listen and did not stop since. -/
def Listens (steps : List ShutdownStep) (name : String) : Prop :=
  ∃ before since, steps = before ++ .subscribe name :: since ∧ .unsubscribe name ∉ since

theorem listens_concat {steps : List ShutdownStep} {step : ShutdownStep} :
    Listens (steps ++ [step]) name ↔
      step = .subscribe name ∨ Listens steps name ∧ step ≠ .unsubscribe name := by
  constructor
  · rintro ⟨before, since, hsteps, hsince⟩
    rcases List.eq_nil_or_concat' since with rfl | ⟨since, last, rfl⟩
    · exact .inl (List.cons.inj (List.append_inj_right' hsteps rfl)).1
    · rw [← List.cons_append, ← List.append_assoc] at hsteps
      obtain ⟨rfl, hlast⟩ := List.append_inj' hsteps rfl
      obtain rfl := (List.cons.inj hlast).1
      refine .inr ⟨⟨before, since, rfl, fun hmem => hsince (List.mem_append_left _ hmem)⟩, ?_⟩
      rintro rfl
      exact hsince (List.mem_append_right _ List.mem_cons_self)
  · rintro (rfl | ⟨⟨before, since, rfl, hsince⟩, hstep⟩)
    · exact ⟨steps, [], rfl, List.not_mem_nil⟩
    · refine ⟨before, since ++ [step], by simp, ?_⟩
      simpa [hsince] using Ne.symm hstep

theorem run_concat (shutdown : Shutdown) (steps : List ShutdownStep) (step : ShutdownStep) :
    shutdown.run (steps ++ [step]) = (shutdown.run steps).step step := by
  rw [run, List.foldl_append]
  rfl

theorem isSome_unread?_run {steps : List ShutdownStep} :
    (({} : Shutdown).run steps |>.unread? name).isSome = true ↔ Listens steps name := by
  -- By the last step, as whoever listens is known from the last of their own steps.
  induction steps using List.reverseRecOn with
  | nil => simp [run, unread?, seen?, Listens]
  | append_singleton steps step ih =>
    rw [run_concat, unread?_step (Sound.empty.run steps), listens_concat, ← ih]
    cases step with
    | clone => simp [ShutdownStep.counted]
    | trigger => simp [ShutdownStep.counted]
    | subscribe other =>
      by_cases h : name = other
      · simp [ShutdownStep.counted, h]
      · simp [ShutdownStep.counted, h, Ne.symm h]
    | receive other => by_cases h : name = other <;> simp [ShutdownStep.counted, h]
    | unsubscribe other =>
      by_cases h : name = other
      · simp [ShutdownStep.counted, h]
      · simp [ShutdownStep.counted, h, Ne.symm h]

/-- **As many listen as names do.** -/
theorem listenerCount_run (steps : List ShutdownStep) :
    (({} : Shutdown).run steps).listenerCount = {name | Listens steps name}.ncard := by
  have hnames : {name | Listens steps name} =
      (((({} : Shutdown).run steps).listeners.map Prod.fst).toFinset : Set String) := by
    ext name
    rw [List.coe_toFinset, Set.mem_ofPred_eq, Set.mem_ofPred_eq, ← isSome_unread?_run, unread?,
      Option.isSome_map, seen?, Option.isSome_map, isSome_find?_key_iff]
  rw [hnames, Set.ncard_coe_finset, List.toFinset_card_of_nodup (Sound.empty.run steps).names,
    List.length_map, listenerCount]

/-! ## Announcements -/

theorem unread?_subscribed (before : List ShutdownStep) (name : String) :
    (({} : Shutdown).run (before ++ [.subscribe name])).unread? name = some 0 := by
  rw [run_concat, unread?_step (Sound.empty.run before)]
  exact if_pos rfl

/-- **No announcement is missed.** A listener that began to listen after any history, and listens
ever since, has as many announcements before it as were made since then less those that it was told
of.

* It finds nothing exactly if there are none, and then nothing changes.
* While nothing is announced it finds the latest, after the number of those before it if there are
  any, and then nothing more.

In every history a listener finds what it would find if all others, and all copies of handles, were
left out, and as many listen as began to and did not stop. -/
theorem never_missed {name : String} (before : List ShutdownStep) {since : List ShutdownStep}
    (h : ∀ step ∈ since, step.Keeps name) :
    let start := ({} : Shutdown).run (before ++ [.subscribe name])
    let now := start.run since
    (∃ unread, unread + ((heard name start since).map Received.told).sum = since.count .trigger ∧
      ((now.receive name).1 = some .empty ↔ unread = 0) ∧
      (unread = 0 → now.receive name = (some .empty, now)) ∧
      ∀ rest, (∀ step ∈ rest, step.Keeps name ∧ step ≠ .trigger) →
        heard name now rest = drained unread (rest.count (.receive name))) ∧
    ∀ steps : List ShutdownStep,
      heard name {} steps = heard name {} (steps.filter (ShutdownStep.concerns name)) ∧
      (({} : Shutdown).run steps).listenerCount = {other | Listens steps other}.ncard := by
  intro start now
  have hstart : start.Sound := Sound.empty.run _
  have hnow : now.Sound := hstart.run since
  obtain ⟨unread, hunread, htold⟩ := unread_heard hstart (unread?_subscribed before name) h
  rw [Nat.zero_add] at htold
  have hempty : (now.receive name).1 = some .empty ↔ unread = 0 := by
    rw [received_eq hnow, hunread]
    match unread with
    | 0 | 1 | _ + 2 => simp [answerTo]
  refine ⟨⟨unread, htold, hempty, ?_, fun rest hrest => heard_drains hnow hunread hrest⟩, ?_⟩
  · rintro rfl
    exact receive_of_unread_zero hnow hunread
  · exact fun steps => ⟨heard_filter Sound.empty Sound.empty rfl steps, listenerCount_run steps⟩

/-- Three announcements in a row, while another listener comes and goes. -/
theorem never_missed_lagging :
    let before : List ShutdownStep := [.trigger, .subscribe "first", .trigger]
    let since : List ShutdownStep :=
      [.trigger, .clone, .receive "first", .trigger, .unsubscribe "first", .trigger]
    let rest : List ShutdownStep :=
      [.receive "second", .subscribe "first", .receive "first", .receive "second",
        .receive "second"]
    let now := (({} : Shutdown).run (before ++ [.subscribe "second"])).run since
    (∀ step ∈ since, step.Keeps "second") ∧
      (∀ step ∈ rest, step.Keeps "second" ∧ step ≠ .trigger) ∧
      heard "second" now rest = [.lagged 2, .signal, .empty] := by
  intro before since rest now
  have hsince : ∀ step ∈ since, step.Keeps "second" := by
    simp [since, ShutdownStep.Keeps]
  have hrest : ∀ step ∈ rest, step.Keeps "second" ∧ step ≠ .trigger := by
    simp [rest, ShutdownStep.Keeps]
  obtain ⟨⟨unread, htold, -, -, hdrained⟩, -⟩ := never_missed before hsince
  have hunread : unread = 3 := htold.trans (by decide)
  exact ⟨hsince, hrest, (hdrained rest hrest).trans (by rw [hunread]; decide)⟩

end Shutdown

end Folio
