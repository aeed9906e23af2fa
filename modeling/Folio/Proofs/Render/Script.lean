import Folio.Render.Basic

/-!
# Scripts

A rendering seen without its sink: what it does, act by act, and how it ends. A script does not know
whether its writes are taken. It is performed into a sink until the sink rejects one.

* `Act`, **`Script`**: what rendering does, and all that it does with its result.
* **`Expansion`**: scripts that depend on what outlives requests; one follows the other, and nothing
  follows a failure.
* `Script.perform`, `Expansion.perform`: the rendering of a script.
* `Expansion.perform_bind`, `Expansion.perform_act`: performing respects sequence and single acts.
* `Performed`, **`Script.Fate`**: what becomes of a script; `perform_fate`: one of its two cases
  does.
* `Sink.Open`: sinks that take every text; what is performed there is performed as a whole.
-/

namespace Folio

/-- What rendering does. -/
inductive Act
  | write (text : String)
  | note (entry : Note)
  | measure (measurement : Measurement)
  /-- What outlives the request is replaced. -/
  | share (shared : Shared)

/-- **All that a rendering does**, and how it ends. -/
structure Script (α : Type) where
  acts : List Act
  result : Except Failure α

/-- What outlives the request after acts. -/
def sharedAfter (shared : Shared) : List Act → Shared
  | [] => shared
  | .share next :: acts => sharedAfter next acts
  | .write _ :: acts | .note _ :: acts | .measure _ :: acts => sharedAfter shared acts

/-- The texts among acts. -/
def texts (acts : List Act) : List String :=
  acts.filterMap fun
    | .write text => some text
    | _ => none

/-- The entries of the journal among acts. -/
def notes (acts : List Act) : List Note :=
  acts.filterMap fun
    | .note entry => some entry
    | _ => none

/-- The measurements among acts. -/
def measured (acts : List Act) : List Measurement :=
  acts.filterMap fun
    | .measure measurement => some measurement
    | _ => none

theorem sharedAfter_append (shared : Shared) (first second : List Act) :
    sharedAfter shared (first ++ second) = sharedAfter (sharedAfter shared first) second := by
  induction first generalizing shared with
  | nil => rfl
  | cons act first ih => cases act <;> exact ih _

/-- **Scripts that depend on what outlives requests.** -/
def Expansion (α : Type) := Shared → Script α

namespace Expansion

variable {α β : Type}

/-- One script after the other. After a failure nothing follows. -/
def andThen (x : Expansion α) (f : α → Expansion β) : Expansion β := fun shared =>
  match (x shared).result with
  | .ok a =>
    let next := f a (sharedAfter shared (x shared).acts)
    ⟨(x shared).acts ++ next.acts, next.result⟩
  | .error e => ⟨(x shared).acts, .error e⟩

instance : Monad Expansion where
  pure a := fun _ => ⟨[], .ok a⟩
  bind := andThen

theorem andThen_ok {x : Expansion α} (f : α → Expansion β) {shared : Shared} {a : α}
    (h : (x shared).result = .ok a) :
    (x >>= f) shared =
      ⟨(x shared).acts ++ (f a (sharedAfter shared (x shared).acts)).acts,
        (f a (sharedAfter shared (x shared).acts)).result⟩ := by
  change andThen x f shared = _
  unfold andThen
  rw [h]

theorem andThen_error {x : Expansion α} (f : α → Expansion β) {shared : Shared} {e : Failure}
    (h : (x shared).result = .error e) : (x >>= f) shared = ⟨(x shared).acts, .error e⟩ := by
  change andThen x f shared = _
  unfold andThen
  rw [h]

instance : LawfulMonad Expansion := by
  refine LawfulMonad.mk' Expansion (fun x => ?_) (fun _ _ => rfl) (fun x f g => ?_)
  · funext shared
    change andThen x (fun a => pure (id a)) shared = x shared
    unfold andThen
    rcases x shared with ⟨acts, e | a⟩
    · rfl
    · exact congrArg (Script.mk · _) (List.append_nil acts)
  · funext shared
    change andThen (andThen x f) g shared = andThen x (fun a => andThen (f a) g) shared
    unfold andThen
    cases hx : (x shared).result with
    | error e => rfl
    | ok a =>
      dsimp only
      cases (f a (sharedAfter shared (x shared).acts)).result with
      | error e => rfl
      | ok b => simp only [sharedAfter_append, List.append_assoc]

/-- Do one thing. -/
def act (act : Act) : Expansion Unit := fun _ => ⟨[act], .ok ()⟩

/-- Write a text. -/
def write (text : String) : Expansion Unit := act (.write text)

/-- Put an entry into the journal. -/
def note (entry : Note) : Expansion Unit := act (.note entry)

/-- Count. -/
def measure (measurement : Measurement) : Expansion Unit := act (.measure measurement)

/-- What outlives the request. -/
def shared : Expansion Shared := fun shared => ⟨[], .ok shared⟩

/-- End as an outcome says. -/
def ofExcept (outcome : Except Failure α) : Expansion α := fun _ => ⟨[], outcome⟩

/-- Fail. -/
def fail (failure : Failure) : Expansion α := ofExcept (.error failure)

end Expansion

/-! ## Performing -/

/-- Do one thing. -/
def Act.perform : Act → Render Unit
  | .write text => Render.write text
  | .note entry => Render.note entry
  | .measure measurement => Render.measure measurement
  | .share shared => modify fun rendering => { rendering with shared := shared }

/-- Do one thing after the other, until a write is rejected. -/
def performAll : List Act → Render Unit
  | [], rendering => (.ok (), rendering)
  | act :: acts, rendering =>
    match act.perform rendering with
    | (.ok (), rendering) => performAll acts rendering
    | (.error e, rendering) => (.error e, rendering)

/-- **Perform a script** until a write is rejected. -/
def Script.perform {α : Type} (script : Script α) : Render α := fun rendering =>
  match performAll script.acts rendering with
  | (.ok (), rendering) => (script.result, rendering)
  | (.error e, rendering) => (.error e, rendering)

/-- Perform an expansion. -/
def Expansion.perform {α : Type} (x : Expansion α) : Render α := fun rendering =>
  (x rendering.shared).perform rendering

/-- A rendering goes on where another ended, unless that failed. -/
theorem Render.bind_apply {α β : Type} (x : Render α) (f : α → Render β) (rendering : Rendering) :
    (x >>= f) rendering =
      match x rendering with
      | (.ok a, rendering) => f a rendering
      | (.error e, rendering) => (.error e, rendering) := by
  change (ExceptT.bind x f : Render β) rendering = _
  simp only [ExceptT.bind, ExceptT.mk, bind, StateT.bind]
  cases x rendering with
  | mk outcome rendering => cases outcome <;> rfl

theorem performAll_append (first second : List Act) (rendering : Rendering) :
    performAll (first ++ second) rendering =
      match performAll first rendering with
      | (.ok (), rendering) => performAll second rendering
      | (.error e, rendering) => (.error e, rendering) := by
  induction first generalizing rendering with
  | nil => rfl
  | cons act first ih =>
    simp only [List.cons_append, performAll]
    cases act.perform rendering with
    | mk outcome rendering =>
      cases outcome with
      | ok _ => exact ih rendering
      | error e => rfl

/-! ## Writes -/

theorem Sink.offer_taken {sink : Sink} {text : String} (h : (sink.offer text).1 = true) :
    (sink.offer text).2.text = sink.text ++ text := by
  simp only [offer] at h ⊢
  rw [if_pos h]

theorem Sink.offer_rejected {sink : Sink} {text : String} (h : (sink.offer text).1 = false) :
    (sink.offer text).2 = { sink with offered := sink.offered + 1 } := by
  simp only [offer] at h ⊢
  rw [h, if_neg Bool.false_ne_true]

theorem Render.write_taken {start : Rendering} {text : String}
    (h : (start.sink.offer text).1 = true) :
    write text start = (.ok (), { start with sink := (start.sink.offer text).2 }) := by
  unfold write
  rw [show start.sink.offer text = (true, (start.sink.offer text).2) from Prod.ext h rfl]

theorem Render.write_rejected {start : Rendering} {text : String}
    (h : (start.sink.offer text).1 = false) :
    write text start = (.error (.error .output),
      { start with sink := { start.sink with offered := start.sink.offered + 1 } }) := by
  unfold write
  rw [show start.sink.offer text = (false, _) from Prod.ext h (Sink.offer_rejected h)]

/-- The sink takes the texts one after the other, and becomes `last`. -/
def Sink.Takes (sink : Sink) : List String → Sink → Prop
  | [], last => last = sink
  | text :: rest, last => (sink.offer text).1 = true ∧ (sink.offer text).2.Takes rest last

theorem Sink.Takes.text {sink last : Sink} {more : List String} (h : sink.Takes more last) :
    last.text = sink.text ++ String.join more := by
  induction more generalizing sink with
  | nil =>
    rw [show last = sink from h]
    exact (String.append_empty).symm
  | cons text more ih =>
    obtain ⟨htaken, hrest⟩ := h
    rw [ih hrest, offer_taken htaken, String.append_assoc, String.join_cons]

/-! ## What becomes of a script -/

/-- **The acts are done one after the other**: every text is taken, and they leave `last`. -/
structure Performed (acts : List Act) (start last : Rendering) : Prop where
  taken : start.sink.Takes (texts acts) last.sink
  text : last.sink.text = start.sink.text ++ String.join (texts acts)
  journal : last.journal = (notes acts).reverse ++ start.journal
  measurements : last.measurements = (measured acts).reverse ++ start.measurements
  shared : last.shared = sharedAfter start.shared acts

namespace Performed

variable {acts : List Act} {start last : Rendering}

theorem nil (start : Rendering) : Performed [] start start :=
  ⟨rfl, String.append_empty.symm, rfl, rfl, rfl⟩

theorem write {text : String} (htaken : (start.sink.offer text).1 = true)
    (h : Performed acts { start with sink := (start.sink.offer text).2 } last) :
    Performed (.write text :: acts) start last :=
  have hall : start.sink.Takes (texts (.write text :: acts)) last.sink := ⟨htaken, h.taken⟩
  ⟨hall, hall.text, h.journal, h.measurements, h.shared⟩

theorem note {entry : Note}
    (h : Performed acts { start with journal := entry :: start.journal } last) :
    Performed (.note entry :: acts) start last := by
  refine ⟨h.taken, h.text, ?_, h.measurements, h.shared⟩
  rw [h.journal, show notes (.note entry :: acts) = entry :: notes acts from rfl,
    List.reverse_cons, List.append_assoc, List.singleton_append]

theorem measure {measurement : Measurement}
    (h : Performed acts { start with measurements := measurement :: start.measurements } last) :
    Performed (.measure measurement :: acts) start last := by
  refine ⟨h.taken, h.text, h.journal, ?_, h.shared⟩
  rw [h.measurements,
    show measured (.measure measurement :: acts) = measurement :: measured acts from rfl,
    List.reverse_cons, List.append_assoc, List.singleton_append]

theorem share {shared : Shared} (h : Performed acts { start with shared := shared } last) :
    Performed (.share shared :: acts) start last :=
  ⟨h.taken, h.text, h.journal, h.measurements, h.shared⟩

end Performed

/-- **What becomes of a script** that is performed from `start`. -/
inductive Script.Fate {α : Type} (script : Script α) (start : Rendering) :
    Except Failure α → Rendering → Prop
  /-- Every write is taken, and the script ends as it ends. -/
  | whole {last : Rendering} (h : Performed script.acts start last) :
    Fate script start script.result last
  /-- A write is rejected: what stands before it is done, the error is that of the output, and
  nothing else is done. -/
  | cut {before after : List Act} {text : String} {middle : Rendering}
    (hacts : script.acts = before ++ .write text :: after) (h : Performed before start middle)
    (hrejected : (middle.sink.offer text).1 = false) :
    Fate script start (.error (.error .output))
      { middle with sink := { middle.sink with offered := middle.sink.offered + 1 } }

/-- One act more is done before all others. -/
theorem Script.Fate.cons {α : Type} {acts : List Act} {result outcome : Except Failure α}
    {act : Act} {start next last : Rendering}
    (hact : ∀ {acts last}, Performed acts next last → Performed (act :: acts) start last)
    (h : (⟨acts, result⟩ : Script α).Fate next outcome last) :
    (⟨act :: acts, result⟩ : Script α).Fate start outcome last := by
  cases h with
  | whole h =>
    have hall : Performed (⟨act :: acts, result⟩ : Script α).acts start last := hact h
    exact .whole hall
  | cut hacts h hrejected =>
    have hall : (⟨act :: acts, result⟩ : Script α).acts = act :: (_ ++ .write _ :: _) :=
      congrArg (act :: ·) hacts
    exact .cut hall (hact h) hrejected

/-- **A script that is performed meets one of its fates.** -/
theorem Script.perform_fate {α : Type} (script : Script α) (start : Rendering) :
    script.Fate start (script.perform start).1 (script.perform start).2 := by
  obtain ⟨acts, result⟩ := script
  induction acts generalizing start with
  | nil =>
    have hnil : Performed (⟨[], result⟩ : Script α).acts start start := Performed.nil start
    exact .whole hnil
  | cons act acts ih =>
    cases act with
    | write text =>
      cases h : (start.sink.offer text).1 with
      | true =>
        have hfirst : (⟨.write text :: acts, result⟩ : Script α).perform start =
            (⟨acts, result⟩ : Script α).perform
              { start with sink := (start.sink.offer text).2 } := by
          simp only [perform, performAll, Act.perform, Render.write_taken h]
        rw [hfirst]
        exact (ih _).cons (Performed.write h)
      | false =>
        have hfirst : (⟨.write text :: acts, result⟩ : Script α).perform start =
            (.error (.error .output),
              { start with sink := { start.sink with offered := start.sink.offered + 1 } }) := by
          simp only [perform, performAll, Act.perform, Render.write_rejected h]
        rw [hfirst]
        have hacts : (⟨.write text :: acts, result⟩ : Script α).acts = [] ++ .write text :: acts :=
          rfl
        exact .cut hacts (Performed.nil start) h
    | note entry => exact (ih _).cons Performed.note
    | measure measurement => exact (ih _).cons Performed.measure
    | share shared => exact (ih _).cons Performed.share

theorem performAll_shared {acts : List Act} {start last : Rendering}
    (h : performAll acts start = (.ok (), last)) :
    last.shared = sharedAfter start.shared acts := by
  have hfate := Script.perform_fate (⟨acts, .ok ()⟩ : Script Unit) start
  rw [Script.perform, h] at hfate
  cases hfate with
  | whole h => exact h.shared

/-! ## Sinks that take every text -/

/-- The sink takes every text. -/
structure Sink.Open (sink : Sink) : Prop where
  roomy : sink.capacity = none
  willing : sink.accepts = fun _ _ _ => true

namespace Sink.Open

variable {sink last : Sink}

theorem taken (h : sink.Open) (text : String) : (sink.offer text).1 = true := by
  simp [offer, hasRoom, h.roomy, h.willing]

theorem offer (h : sink.Open) (text : String) : (sink.offer text).2.Open :=
  ⟨h.roomy, h.willing⟩

theorem takes {more : List String} (h : sink.Open) (htakes : sink.Takes more last) : last.Open := by
  induction more generalizing sink with
  | nil =>
    obtain rfl : last = sink := htakes
    exact h
  | cons text more ih => exact ih (h.offer text) htakes.2

end Sink.Open

/-- A script is performed as a whole where every text is taken. -/
theorem Script.Fate.of_open {α : Type} {script : Script α} {start last : Rendering}
    {outcome : Except Failure α} (h : script.Fate start outcome last) (hopen : start.sink.Open) :
    outcome = script.result ∧ Performed script.acts start last := by
  cases h with
  | whole h => exact ⟨rfl, h⟩
  | cut hacts h hrejected =>
    rw [(hopen.takes h.taken).taken] at hrejected
    cases hrejected

/-! ## Performing respects sequence -/

namespace Expansion

variable {α β : Type}

theorem perform_bind (x : Expansion α) (f : α → Expansion β) :
    (x >>= f).perform = x.perform >>= fun a => (f a).perform := by
  funext start
  rw [Render.bind_apply]
  change (andThen x f start.shared).perform start = _
  unfold andThen perform Script.perform
  cases hresult : (x start.shared).result with
  | ok a =>
    dsimp only
    rw [performAll_append]
    cases hacts : performAll (x start.shared).acts start with
    | mk outcome middle =>
      cases outcome with
      | ok _ => simp only [performAll_shared hacts]
      | error e => rfl
  | error e =>
    dsimp only
    cases performAll (x start.shared).acts start with
    | mk outcome middle => cases outcome <;> rfl

theorem perform_act (act : Act) : (Expansion.act act).perform = act.perform := by
  funext start
  simp only [perform, Expansion.act, Script.perform, performAll]
  cases act.perform start with
  | mk outcome last => cases outcome <;> rfl

end Expansion

end Folio
