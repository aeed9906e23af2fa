import Folio.Proofs.Render.Running
import Folio.Proofs.Scanner.Rejection
import Mathlib.Data.List.Forall2

/-!
# Values are not scanned

A template is scanned before any value is known. Filling it is writing its pieces one after the
other: literal text, values as they are, and what a callback writes for the tags without one. So
what stands in a value is never taken for a part of the template.

* `Render.expandText_eq`, `Render.expandTemplate_eq`: answering tags is going through the events.
* `Piece`, `piecesOf`: the pieces of a filled template; `Piece.SameBut`: the same but for values.
* `Piece.Gives`, **`Filled`**: what pieces leave in the sink, or where they end.
* **`Render.fill_never_rescans`**: what filling writes, and what two models have in common.
-/

namespace Folio

/-! ## Going through events -/

/-- Say an event into the sink: literal text is written and tags are answered. -/
def Event.render (onTag : String → Render Unit) : Event → Render Unit
  | .literal text => Render.write text
  | .tag name => onTag name

/-- Offering events to the sink of a scan is saying them one after the other. -/
theorem offerAll_offerTo_forM (onTag : String → Render Unit) (events : List Event)
    (start : Rendering) :
    offerAll (Render.offerTo fun tag _ => onTag tag) events ((), start) =
      ((events.forM (Event.render onTag) start).1, ((),
        (events.forM (Event.render onTag) start).2)) := by
  induction events generalizing start with
  | nil => rfl
  | cons event events ih =>
    rw [offerAll, show (event :: events).forM (Event.render onTag) =
      (event.render onTag >>= fun _ => events.forM (Event.render onTag)) from rfl,
      Render.bind_apply]
    cases event with
    | literal text =>
      simp only [Render.offerTo, Event.render]
      rcases Render.write text start with ⟨_ | _, next⟩
      · rfl
      · exact ih next
    | tag name =>
      simp only [Render.offerTo, Event.render]
      rcases onTag name start with ⟨_ | _, next⟩
      · rfl
      · exact ih next

/-- **Answering the tags of a text** is going through its events. -/
theorem Render.expandText_eq (context : Context) (text : String) (onTag : String → Render Unit) :
    expandText context text onTag =
      (eventsOf context.textOptions text).forM (Event.render onTag) := by
  funext start
  simp only [expandText, scanInline, scanText, scan_eq_offerAll, saidOf_text, ending_map_ok,
    offerAll_offerTo_forM]
  rcases (eventsOf context.textOptions text).forM (Event.render onTag) start with ⟨_ | _, last⟩ <;>
    rfl

/-- **Answering the tags of a template** is going through its events, up to its end or to where it
cannot be read. -/
theorem Render.expandTemplate_eq (context : Context) (name : String)
    (onTag : String → Render Unit) :
    expandTemplate context name onTag =
      (do
        let chars := Expansion.charsOfTemplate name (← openTemplate context name)
        (({} : Scanner).saidOf context.templateOptions chars).forM (Event.render onTag)
        ofExcept (ending chars)
        : Render Unit) := by
  funext start
  simp only [expandTemplate, scanTemplate, Render.bind_apply]
  rcases openTemplate context name start with ⟨_ | signals, next⟩
  · rfl
  · dsimp only
    simp only [scanStream, scan_eq_offerAll, offerAll_offerTo_forM]
    rw [show (charsOf signals).map _ = Expansion.charsOfTemplate name signals from rfl]
    rcases (({} : Scanner).saidOf context.templateOptions _).forM (Event.render onTag) next with
      ⟨_ | _, last⟩ <;> rfl

/-! ## Pieces -/

/-- A piece of a filled template. -/
inductive Piece
  /-- Literal text of the template. -/
  | literal (text : String)
  /-- A tag, and the value that the model has for it. -/
  | value (tag text : String)
  /-- A tag that the model has no value for. -/
  | missing (tag : String)
  deriving DecidableEq

namespace Piece

/-- What an event becomes that is filled from a model. -/
def ofEvent (model : Model) : Event → Piece
  | .literal text => .literal text
  | .tag name =>
    match model.property name with
    | some text => .value name text
    | none => .missing name

/-- Write a piece; the callback is called for a tag without a value. -/
def render (unmatched : String → Render Unit) : Piece → Render Unit
  | .literal text | .value _ text => Render.write text
  | .missing tag => unmatched tag

/-- The tag of a piece. -/
def tag? : Piece → Option String
  | .literal _ => none
  | .value tag _ | .missing tag => some tag

/-- The tag that the callback is called for. -/
def missing? : Piece → Option String
  | .literal _ | .value _ _ => none
  | .missing tag => some tag

/-- The same piece but for the value. -/
inductive SameBut : Piece → Piece → Prop
  | literal (text : String) : SameBut (.literal text) (.literal text)
  | value (tag text other : String) : SameBut (.value tag text) (.value tag other)
  | missing (tag : String) : SameBut (.missing tag) (.missing tag)

/-- What a piece leaves in the sink: literal text and values as they are, for a tag without a value
what some call of the callback appends. -/
inductive Gives (unmatched : String → Render Unit) : Piece → String → Prop
  | literal (text : String) : Gives unmatched (.literal text) text
  | value (tag text : String) : Gives unmatched (.value tag text) text
  | missing (tag : String) {start last : Rendering} {text : String}
    (hcall : unmatched tag start = (.ok (), last))
    (htext : last.sink.text = start.sink.text ++ text) : Gives unmatched (.missing tag) text

end Piece

/-- **The pieces of a filled template**: its events, each tag with the value that the model has. -/
def piecesOf (model : Model) (events : List Event) : List Piece :=
  events.map (Piece.ofEvent model)

theorem Piece.render_ofEvent (model : Model) (unmatched : String → Render Unit) (event : Event) :
    (ofEvent model event).render unmatched = event.render (Render.answerFrom model unmatched) := by
  cases event with
  | literal text => rfl
  | tag name =>
    simp only [ofEvent, Event.render, Render.answerFrom]
    cases model.property name <;> rfl

theorem forM_piecesOf (model : Model) (unmatched : String → Render Unit) (events : List Event) :
    (piecesOf model events).forM (Piece.render unmatched) =
      events.forM (Event.render (Render.answerFrom model unmatched)) := by
  induction events with
  | nil => rfl
  | cons event events ih =>
    change (Piece.ofEvent model event).render unmatched >>=
      (fun _ => (piecesOf model events).forM _) = _
    rw [Piece.render_ofEvent, ih]
    rfl

theorem tags_piecesOf (model : Model) (events : List Event) :
    (piecesOf model events).filterMap Piece.tag? = tagNames events := by
  rw [piecesOf, List.filterMap_map, tagNames]
  congr 1
  funext event
  cases event with
  | literal text => rfl
  | tag name =>
    simp only [Function.comp, Piece.ofEvent]
    cases model.property name <;> rfl

theorem missing_piecesOf (model : Model) (events : List Event) :
    (piecesOf model events).filterMap Piece.missing? =
      (tagNames events).filter fun tag => (model.property tag).isNone := by
  rw [piecesOf, List.filterMap_map, tagNames, List.filter_filterMap]
  congr 1
  funext event
  cases event with
  | literal text => rfl
  | tag name =>
    simp only [Function.comp, Piece.ofEvent, Event.tagName?]
    cases h : model.property name <;> simp [Piece.missing?, Option.filter, h]

/-- Two models that have values for the same tags give the same pieces but for the values. -/
theorem piecesOf_sameBut {model other : Model} {events : List Event}
    (h : ∀ tag ∈ tagNames events, (model.property tag).isSome = (other.property tag).isSome) :
    List.Forall₂ Piece.SameBut (piecesOf model events) (piecesOf other events) := by
  refine List.forall₂_map_left_iff.mpr (List.forall₂_map_right_iff.mpr
    (List.forall₂_same.mpr fun event hevent => ?_))
  cases event with
  | literal text => exact .literal text
  | tag name =>
    have hsame := h name (List.mem_filterMap.mpr ⟨.tag name, hevent, rfl⟩)
    simp only [Piece.ofEvent]
    revert hsame
    cases model.property name <;> cases other.property name <;> intro hsame
    · exact .missing name
    · cases hsame
    · cases hsame
    · exact .value name _ _

/-! ## What pieces leave -/

/-- **What becomes of pieces** that are written from `start`: each of them leaves its text, or one
of them fails, and nothing follows it. -/
inductive Filled (unmatched : String → Render Unit) (pieces : List Piece) (start : Rendering) :
    Except Failure Unit → Rendering → Prop
  | whole {texts : List String} {last : Rendering}
    (hgives : List.Forall₂ (Piece.Gives unmatched) pieces texts)
    (htext : last.sink.text = start.sink.text ++ String.join texts) :
    Filled unmatched pieces start (.ok ()) last
  | cut {done rest : List Piece} {piece : Piece} {texts : List String} {middle last : Rendering}
    {error : Failure} (hpieces : pieces = done ++ piece :: rest)
    (hgives : List.Forall₂ (Piece.Gives unmatched) done texts)
    (htext : middle.sink.text = start.sink.text ++ String.join texts)
    (hpiece : piece.render unmatched middle = (.error error, last)) :
    Filled unmatched pieces start (.error error) last

/-- A callback that only writes. -/
def Appends (unmatched : String → Render Unit) : Prop :=
  ∀ tag start, ∃ text, (unmatched tag start).2.sink.text = start.sink.text ++ text

/-- A text that is written stands at the end, or the write is rejected and leaves nothing. -/
theorem Render.write_cases (text : String) (start : Rendering) :
    (∃ next, write text start = (.ok (), next) ∧ next.sink.text = start.sink.text ++ text) ∨
      ∃ next, write text start = (.error (.error .output), next) ∧
        next.sink.text = start.sink.text := by
  cases hoffer : (start.sink.offer text).1 with
  | true => exact .inl ⟨_, write_taken hoffer, Sink.offer_taken hoffer⟩
  | false => exact .inr ⟨_, write_rejected hoffer, rfl⟩

theorem Appends.write (text : String → String) : Appends fun tag => Render.write (text tag) := by
  intro tag start
  dsimp only
  rcases Render.write_cases (text tag) start with ⟨next, hnext, htext⟩ | ⟨next, hnext, htext⟩
  · rw [hnext]
    exact ⟨text tag, htext⟩
  · rw [hnext]
    exact ⟨"", htext.trans String.append_empty.symm⟩

theorem Piece.gives_of_render {unmatched : String → Render Unit} (happends : Appends unmatched)
    {piece : Piece} {start next : Rendering} (h : piece.render unmatched start = (.ok (), next)) :
    ∃ text, piece.Gives unmatched text ∧ next.sink.text = start.sink.text ++ text := by
  have htaken {text : String} (hwrite : Render.write text start = (.ok (), next)) :
      next.sink.text = start.sink.text ++ text := by
    rcases Render.write_cases text start with ⟨last, hlast, htext⟩ | ⟨last, hlast, -⟩
    · obtain rfl := (Prod.mk.inj (hlast.symm.trans hwrite)).2
      exact htext
    · cases hlast.symm.trans hwrite
  cases piece with
  | literal text => exact ⟨text, .literal text, htaken h⟩
  | value tag text => exact ⟨text, .value tag text, htaken h⟩
  | missing tag =>
    have hcall : unmatched tag start = (.ok (), next) := h
    obtain ⟨text, htext⟩ := happends tag start
    rw [hcall] at htext
    exact ⟨text, .missing tag hcall htext, htext⟩

theorem Filled.cons {unmatched : String → Render Unit} {piece : Piece} {pieces : List Piece}
    {start next last : Rendering} {outcome : Except Failure Unit} {text : String}
    (hgives : piece.Gives unmatched text) (htext : next.sink.text = start.sink.text ++ text)
    (h : Filled unmatched pieces next outcome last) :
    Filled unmatched (piece :: pieces) start outcome last := by
  have hjoin (texts : List String) :
      next.sink.text ++ String.join texts = start.sink.text ++ String.join (text :: texts) := by
    rw [htext, String.append_assoc, String.join_cons]
  cases h with
  | whole hrest hlast => exact .whole (.cons hgives hrest) (hlast.trans (hjoin _))
  | cut hpieces hdone hmiddle hpiece =>
    exact .cut (congrArg (piece :: ·) hpieces) (.cons hgives hdone) (hmiddle.trans (hjoin _)) hpiece

/-- **Pieces that are written meet one of their fates.** -/
theorem forM_filled {unmatched : String → Render Unit} (happends : Appends unmatched)
    (pieces : List Piece) (start : Rendering) :
    Filled unmatched pieces start (pieces.forM (Piece.render unmatched) start).1
      (pieces.forM (Piece.render unmatched) start).2 := by
  induction pieces generalizing start with
  | nil => exact .whole .nil String.append_empty.symm
  | cons piece pieces ih =>
    rw [show (piece :: pieces).forM (Piece.render unmatched) =
      (piece.render unmatched >>= fun _ => pieces.forM (Piece.render unmatched)) from rfl,
      Render.bind_apply]
    cases hpiece : piece.render unmatched start with
    | mk outcome next =>
      cases outcome with
      | ok _ =>
        obtain ⟨text, hgives, htext⟩ := Piece.gives_of_render happends hpiece
        exact (ih next).cons hgives htext
      | error e => exact .cut (List.nil_append _).symm .nil String.append_empty.symm hpiece

/-- Without a callback, a tag without a value leaves nothing. -/
theorem Piece.gives_nothing {tag text : String}
    (h : (missing tag).Gives (fun _ => pure ()) text) : text = "" := by
  cases h with
  | @missing _ start last _ hcall htext =>
    obtain rfl : start = last := (Prod.mk.inj hcall).2
    exact (String.append_right_inj _).mp (htext.symm.trans String.append_empty.symm)

/-! ## Filling -/

/-- **Filling a template** is writing the pieces that its events are with the model's values. -/
theorem Render.fillTemplate_eq (context : Context) (name : String) (model : Model)
    (unmatched : String → Render Unit) :
    fillTemplate context name model unmatched =
      (do
        let chars := Expansion.charsOfTemplate name (← openTemplate context name)
        let events := ({} : Scanner).saidOf context.templateOptions chars
        (piecesOf model events).forM (Piece.render unmatched)
        ofExcept (ending chars)
        : Render Unit) := by
  rw [fillTemplate, expandTemplate_eq]
  simp only [forM_piecesOf]

/-- **Values are not scanned.** Filling a text or a template from a model is writing the pieces that
its events are with the model's values, one after the other; the events are those of the template
alone. So the tags that are met are the tags of the template, in their order, and the callback is
called for those without a value; two models that have values for the same tags fill the same pieces
with other values. A literal or a value is written as it is, and a tag without a value leaves what
the callback writes: nothing without a callback. -/
theorem Render.fill_never_rescans (context : Context) (unmatched : String → Render Unit) :
    (∀ text model, Render.fillText context text model unmatched =
      (piecesOf model (eventsOf context.textOptions text)).forM (Piece.render unmatched)) ∧
    (∀ name model, Render.fillTemplate context name model unmatched =
      (do
        let chars := Expansion.charsOfTemplate name (← Render.openTemplate context name)
        let events := ({} : Scanner).saidOf context.templateOptions chars
        (piecesOf model events).forM (Piece.render unmatched)
        Render.ofExcept (ending chars)
        : Render Unit)) ∧
    (∀ model events, (piecesOf model events).filterMap Piece.tag? = tagNames events ∧
      (piecesOf model events).filterMap Piece.missing? =
        (tagNames events).filter fun tag => (model.property tag).isNone) ∧
    (∀ model other events,
      (∀ tag ∈ tagNames events, (model.property tag).isSome = (other.property tag).isSome) →
      List.Forall₂ Piece.SameBut (piecesOf model events) (piecesOf other events)) ∧
    (Appends unmatched → ∀ pieces start,
      let run := pieces.forM (Piece.render unmatched) start
      Filled unmatched pieces start run.1 run.2) ∧
    ∀ tag text, (Piece.missing tag).Gives (fun _ => pure ()) text → text = "" := by
  refine ⟨fun text model => ?_, fun name model => fillTemplate_eq context name model unmatched,
    fun model events => ⟨tags_piecesOf model events, missing_piecesOf model events⟩,
    fun model other events => piecesOf_sameBut,
    fun happends pieces start => forM_filled happends pieces start,
    fun tag text => Piece.gives_nothing⟩
  rw [fillText, expandText_eq, forM_piecesOf]

/-- A tag is replaced by the text of another tag, and by what begins a rooted one. -/
theorem Render.fill_never_rescans_syntax :
    let context : Context :=
      { request := {}, templates := .memory [], searchRoot := "", textOptions := {}
        templateOptions := {} }
    let unmatched (tag : String) : Render Unit := Render.write ("[" ++ tag ++ "]")
    let model : Model := ⟨.object [("x", .string "@y@"), ("y", .string "never")]⟩
    let other : Model := ⟨.object [("x", .string "@~/\n"), ("y", .string "never")]⟩
    let text := "a@x@b@z@c"
    let events := eventsOf context.textOptions text
    let run (model : Model) := Render.fillText context text model unmatched {}
    (∀ tag ∈ tagNames events, (model.property tag).isSome = (other.property tag).isSome) ∧
      Appends unmatched ∧
      List.Forall₂ Piece.SameBut (piecesOf model events) (piecesOf other events) ∧
      Filled unmatched (piecesOf model events) {} (run model).1 (run model).2 ∧
      (run model).2.sink.text = "a@y@b[z]c" ∧ (run other).2.sink.text = "a@~/\nb[z]c" := by
  intro context unmatched model other text events run
  have happends : Appends unmatched := .write fun tag => "[" ++ tag ++ "]"
  have hsame : ∀ tag ∈ tagNames events,
      (model.property tag).isSome = (other.property tag).isSome := by decide +kernel
  obtain ⟨htext, -, -, hpieces, hfilled, -⟩ := fill_never_rescans context unmatched
  refine ⟨hsame, happends, hpieces model other events hsame, ?_, by decide +kernel,
    by decide +kernel⟩
  have hrun : run model = (piecesOf model events).forM (Piece.render unmatched) {} :=
    congrFun (htext text model) {}
  rw [hrun]
  exact hfilled happends (piecesOf model events) {}

end Folio
