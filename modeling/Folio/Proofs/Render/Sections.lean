import Folio.Proofs.Render.Filling

/-!
# The sections of a repeater

A repeater goes through three templates with one sink and one callback. What it does is a list of
deeds: templates are opened, literals and values are written, and the callback is called for tags
without a value. Which lists these are is told by the templates and models alone. They happen one
after the other, until one of them fails.

* `RepeaterPart`, **`Deed`**: the templates of a repeater, and what is done with them.
* `GoesThrough`, `Bound`, **`Expanded`**: going through a template, binding its tags to a model, and
  what the events of the header stand for.
* `Deed.Runs`, **`Happens`**: how deeds are done, one after the other.
* `Does`: what a computation does; `Does.bind`, `Does.forM`, `Does.goesThrough`: its rules.
* `openedFor_header`: which records the item template is opened for.
* `Deed.Gives`, `Happens.leaves`: the text that deeds leave.
* **`Render.repeatRecords_happens`**: what a repeater does, and what it leaves.
-/

namespace Folio

/-- The templates of a repeater; that of an item is for one record. -/
inductive RepeaterPart
  | header
  | item (record : Model)
  | footer

/-- The name of the template. -/
def RepeaterPart.template (templates : RepeaterParts) : RepeaterPart → String
  | .header => templates.header
  | .item _ => templates.item
  | .footer => templates.footer

/-- **What a repeater does**, one thing after the other. -/
inductive Deed
  /-- Open a template; `found` is its stream. -/
  | opens (part : RepeaterPart) (found : List Signal)
  /-- Write a literal or a value. -/
  | writes (text : String)
  /-- Call the callback for a tag without a value. -/
  | calls (tag : String) (record : Option Model)
  /-- Come to the end of what can be read of a template. -/
  | ends (outcome : Except Failure Unit)

/-! ## Lists of deeds -/

/-- The events of a template, up to where it can be read. -/
def templateEvents (context : Context) (name : String) (found : List Signal) : List Event :=
  ({} : Scanner).saidOf context.templateOptions (Expansion.charsOfTemplate name found)

section Lists

variable (context : Context) (templates : RepeaterParts)

/-- Go through a template: it is opened, its events are answered in their order, and it ends. -/
inductive GoesThrough (part : RepeaterPart) (answers : Event → List Deed → Prop) :
    List Deed → Prop
  | whole (found : List Signal) {parts : List (List Deed)}
    (hparts : List.Forall₂ answers (templateEvents context (part.template templates) found) parts) :
    GoesThrough part answers (.opens part found :: (parts.flatten ++
      [.ends (ending (Expansion.charsOfTemplate (part.template templates) found))]))

/-- Answer an event from a model. -/
inductive Bound (model : Model) (record : Option Model) : Event → List Deed → Prop
  | literal (text : String) : Bound model record (.literal text) [.writes text]
  | value {tag text : String} (h : model.property tag = some text) :
    Bound model record (.tag tag) [.writes text]
  | missing {tag : String} (h : model.property tag = none) :
    Bound model record (.tag tag) [.calls tag record]

/-- **What an event of the header stands for**: the one reserved tag for the item template, gone
through for each record, the other for the footer, and every other event for what it is in the
ambient model. -/
inductive Expanded (items : List Model) (ambient : Model) : Event → List Deed → Prop
  | items {parts : List (List Deed)} (hparts : List.Forall₂ (fun record =>
      GoesThrough context templates (.item record) (Bound record (some record))) items parts) :
    Expanded items ambient (.tag Render.itemTag) parts.flatten
  | footer {deeds : List Deed}
    (h : GoesThrough context templates .footer (Bound ambient none) deeds) :
    Expanded items ambient (.tag Render.footerTag) deeds
  | other {event : Event} {deeds : List Deed} (hitem : event ≠ .tag Render.itemTag)
    (hfooter : event ≠ .tag Render.footerTag) (h : Bound ambient none event deeds) :
    Expanded items ambient event deeds

end Lists

/-! ## Deeds that happen -/

section Happening

variable (context : Context) (templates : RepeaterParts)
  (unmatched : String → Option Model → Render Unit)

/-- How a deed is done. -/
inductive Deed.Runs : Deed → Rendering → Except Failure Unit → Rendering → Prop
  | opened {part : RepeaterPart} {found : List Signal} {start last : Rendering}
    (h : Render.openTemplate context (part.template templates) start = (.ok found, last)) :
    Runs (.opens part found) start (.ok ()) last
  | unopened {part : RepeaterPart} {found : List Signal} {error : Failure} {start last : Rendering}
    (h : Render.openTemplate context (part.template templates) start = (.error error, last)) :
    Runs (.opens part found) start (.error error) last
  | writes (text : String) (start : Rendering) :
    Runs (.writes text) start (Render.write text start).1 (Render.write text start).2
  | calls (tag : String) (record : Option Model) (start : Rendering) :
    Runs (.calls tag record) start (unmatched tag record start).1 (unmatched tag record start).2
  | ends (outcome : Except Failure Unit) (start : Rendering) :
    Runs (.ends outcome) start outcome start

/-- **Deeds happen** one after the other, until one of them fails. -/
inductive Happens : List Deed → Rendering → Except Failure Unit → Rendering → Prop
  | done (start : Rendering) : Happens [] start (.ok ()) start
  | next {deed : Deed} {deeds : List Deed} {start middle last : Rendering}
    {outcome : Except Failure Unit} (hdeed : deed.Runs context templates unmatched start (.ok ())
      middle) (hrest : Happens deeds middle outcome last) :
    Happens (deed :: deeds) start outcome last
  | stop {deed : Deed} {start last : Rendering} {error : Failure}
    (hdeed : deed.Runs context templates unmatched start (.error error) last)
    (deeds : List Deed) : Happens (deed :: deeds) start (.error error) last

variable {context templates unmatched}

namespace Happens

variable {first second : List Deed} {start middle last : Rendering} {outcome : Except Failure Unit}

theorem append (h : Happens context templates unmatched first start (.ok ()) middle)
    (hsecond : Happens context templates unmatched second middle outcome last) :
    Happens context templates unmatched (first ++ second) start outcome last := by
  induction first generalizing start with
  | nil =>
    cases h
    exact hsecond
  | cons deed first ih =>
    cases h with
    | next hdeed hrest => exact .next hdeed (ih hrest)

theorem append_of_error {error : Failure}
    (h : Happens context templates unmatched first start (.error error) last)
    (second : List Deed) :
    Happens context templates unmatched (first ++ second) start (.error error) last := by
  induction first generalizing start with
  | nil => cases h
  | cons deed first ih =>
    cases h with
    | next hdeed hrest => exact .next hdeed (ih hrest)
    | stop hdeed deeds => exact .stop hdeed _

theorem single {deed : Deed} (h : deed.Runs context templates unmatched start outcome last) :
    Happens context templates unmatched [deed] start outcome last := by
  cases outcome with
  | ok _ => exact .next h (.done last)
  | error e => exact .stop h []

end Happens

variable (context templates unmatched) in
/-- **What a computation does** is one of these lists of deeds, from every start. -/
def Does (x : Render Unit) (lists : List Deed → Prop) : Prop :=
  ∀ start, ∃ deeds, lists deeds ∧ Happens context templates unmatched deeds start (x start).1
    (x start).2

namespace Does

variable {x y : Render Unit} {lists more : List Deed → Prop}

theorem mono (h : Does context templates unmatched x lists)
    (hmore : ∀ deeds, lists deeds → more deeds) :
    Does context templates unmatched x more := fun start => by
  obtain ⟨deeds, hdeeds, hhappens⟩ := h start
  exact ⟨deeds, hmore deeds hdeeds, hhappens⟩

theorem single {deed : Deed} (hdeed : lists [deed])
    (h : ∀ start, deed.Runs context templates unmatched start (x start).1 (x start).2) :
    Does context templates unmatched x lists := fun start =>
  ⟨[deed], hdeed, .single (h start)⟩

/-- One computation after the other does what both do. What the second one does not come to do is
what it would do from anywhere. -/
theorem bind (hx : Does context templates unmatched x lists)
    (hy : Does context templates unmatched y more) :
    Does context templates unmatched (do x; y) fun deeds =>
      ∃ first second, lists first ∧ more second ∧ deeds = first ++ second := by
  intro start
  obtain ⟨first, hfirst, hhappens⟩ := hx start
  rw [Render.bind_apply]
  cases hrun : x start with
  | mk outcome next =>
    rw [hrun] at hhappens
    obtain ⟨second, hsecond, hrest⟩ := hy next
    refine ⟨first ++ second, ⟨first, second, hfirst, hsecond, rfl⟩, ?_⟩
    cases outcome with
    | ok _ => exact hhappens.append hrest
    | error e => exact hhappens.append_of_error second

theorem forM {ι : Type} {f : ι → Render Unit} {lists : ι → List Deed → Prop}
    (h : ∀ i, Does context templates unmatched (f i) (lists i)) (is : List ι) :
    Does context templates unmatched (is.forM f) fun deeds =>
      ∃ parts, List.Forall₂ lists is parts ∧ deeds = parts.flatten := by
  induction is with
  | nil => exact fun start => ⟨[], ⟨[], .nil, rfl⟩, .done start⟩
  | cons i is ih =>
    refine ((h i).bind ih).mono ?_
    rintro _ ⟨first, _, hfirst, ⟨parts, hparts, rfl⟩, rfl⟩
    exact ⟨first :: parts, .cons hfirst hparts, rfl⟩

/-- A template is opened first. Where it cannot be, nothing of it is done. -/
theorem opening (part : RepeaterPart) {f : List Signal → Render Unit}
    {lists : List Signal → List Deed → Prop}
    (h : ∀ found, Does context templates unmatched (f found) (lists found)) :
    Does context templates unmatched
      (do f (← Render.openTemplate context (part.template templates))) fun deeds =>
        ∃ found rest, lists found rest ∧ deeds = .opens part found :: rest := by
  intro start
  rw [Render.bind_apply]
  cases hopen : Render.openTemplate context (part.template templates) start with
  | mk outcome next =>
    cases outcome with
    | ok found =>
      obtain ⟨rest, hrest, hhappens⟩ := h found next
      exact ⟨_, ⟨found, rest, hrest, rfl⟩, .next (.opened hopen) hhappens⟩
    | error e =>
      obtain ⟨rest, hrest, -⟩ := h [] next
      exact ⟨_, ⟨[], rest, hrest, rfl⟩, .stop (.unopened hopen) rest⟩

/-- **Expanding a template goes through it**, if its events are answered so. -/
theorem goesThrough (part : RepeaterPart) {onTag : String → Render Unit}
    {answers : Event → List Deed → Prop}
    (h : ∀ event : Event, Does context templates unmatched (event.render onTag) (answers event)) :
    Does context templates unmatched
      (Render.expandTemplate context (part.template templates) onTag)
      (GoesThrough context templates part answers) := by
  rw [Render.expandTemplate_eq]
  have hends (outcome : Except Failure Unit) :
      Does context templates unmatched (Render.ofExcept outcome) (· = [.ends outcome]) :=
    .single rfl fun start => .ends outcome start
  refine (opening part fun found => (forM h _).bind (hends _)).mono ?_
  rintro _ ⟨found, _, ⟨_, _, ⟨parts, hparts, rfl⟩, rfl, rfl⟩, rfl⟩
  exact .whole found hparts

/-- Answering from a model. -/
theorem answerFrom (model : Model) (record : Option Model) (event : Event) :
    Does context templates unmatched
      (event.render (Render.answerFrom model fun tag => unmatched tag record))
      (Bound model record event) := by
  cases event with
  | literal text => exact .single (.literal text) fun start => .writes text start
  | tag tag =>
    rw [Event.render, Render.answerFrom]
    cases hproperty : model.property tag with
    | some text => exact .single (.value hproperty) fun start => .writes text start
    | none => exact .single (.missing hproperty) fun start => .calls tag record start

/-- An event of the header does what it stands for. -/
theorem expanded (items : List Model) (ambient : Model) (event : Event) :
    Does context templates unmatched
      (event.render fun tag =>
        if tag = Render.itemTag then
          items.forM fun item =>
            Render.fillTemplate context templates.item item fun tag => unmatched tag (some item)
        else if tag = Render.footerTag then
          Render.fillTemplate context templates.footer ambient fun tag => unmatched tag none
        else Render.answerFrom ambient (fun tag => unmatched tag none) tag)
      (Expanded context templates items ambient event) := by
  have hitem (record : Model) :
      Does context templates unmatched
        (Render.fillTemplate context templates.item record fun tag => unmatched tag (some record))
        (GoesThrough context templates (.item record) (Bound record (some record))) :=
    goesThrough (.item record) fun event => answerFrom record (some record) event
  have hfooter :
      Does context templates unmatched
        (Render.fillTemplate context templates.footer ambient fun tag => unmatched tag none)
        (GoesThrough context templates .footer (Bound ambient none)) :=
    goesThrough .footer fun event => answerFrom ambient none event
  have hother :
      Does context templates unmatched
        (event.render (Render.answerFrom ambient fun tag => unmatched tag none))
        (Bound ambient none event) :=
    answerFrom ambient none event
  cases event with
  | literal text => exact hother.mono fun deeds => .other nofun nofun
  | tag tag =>
    rw [Event.render]
    by_cases htag : tag = Render.itemTag
    · subst htag
      rw [if_pos rfl]
      refine (forM hitem items).mono ?_
      rintro _ ⟨parts, hparts, rfl⟩
      exact .items hparts
    · by_cases htag' : tag = Render.footerTag
      · subst htag'
        rw [if_neg htag, if_pos rfl]
        exact hfooter.mono fun deeds => .footer
      · rw [if_neg htag, if_neg htag']
        exact hother.mono fun deeds => .other (by simpa using htag) (by simpa using htag')

end Does

end Happening

/-! ## Records -/

/-- The record that a deed opens the item template for. -/
def Deed.openedFor? : Deed → Option Model
  | .opens (.item record) _ => some record
  | .opens .header _ | .opens .footer _ | .writes _ | .calls .. | .ends _ => none

/-- The record of a template. -/
def RepeaterPart.record? : RepeaterPart → Option Model
  | .item record => some record
  | .header | .footer => none

section Records

variable {context : Context} {templates : RepeaterParts}

/-- What the item template is opened for in lists of deeds, one after the other. -/
theorem openedFor_flatten {ι : Type} {answers : ι → List Deed → Prop} {records : ι → List Model}
    (h : ∀ i deeds, answers i deeds → deeds.filterMap Deed.openedFor? = records i) {is : List ι}
    {parts : List (List Deed)} (hparts : List.Forall₂ answers is parts) :
    parts.flatten.filterMap Deed.openedFor? = is.flatMap records := by
  induction hparts with
  | nil => rfl
  | cons hpart _ ih =>
    rw [List.flatten_cons, List.filterMap_append, h _ _ hpart, ih, List.flatMap_cons]

theorem GoesThrough.openedFor {part : RepeaterPart} {answers : Event → List Deed → Prop}
    {records : Event → List Model} {deeds : List Deed}
    (h : GoesThrough context templates part answers deeds)
    (hanswers : ∀ event deeds, answers event deeds →
      deeds.filterMap Deed.openedFor? = records event) :
    ∃ found rest, deeds = .opens part found :: rest ∧ deeds.filterMap Deed.openedFor? =
      part.record?.toList ++
        (templateEvents context (part.template templates) found).flatMap records := by
  cases h with
  | @whole found parts hparts =>
    refine ⟨found, _, rfl, ?_⟩
    rw [List.filterMap_cons, List.filterMap_append, openedFor_flatten hanswers hparts]
    cases part <;> simp [Deed.openedFor?, RepeaterPart.record?]

theorem Bound.openedFor {part : RepeaterPart} {model : Model} {record : Option Model}
    {deeds : List Deed} (h : GoesThrough context templates part (Bound model record) deeds) :
    deeds.filterMap Deed.openedFor? = part.record?.toList := by
  have hbound (event : Event) (deeds : List Deed) (h : Bound model record event deeds) :
      deeds.filterMap Deed.openedFor? = [] := by
    cases h <;> rfl
  obtain ⟨found, -, -, hdeeds⟩ := h.openedFor hbound
  rw [hdeeds]
  simp

theorem Expanded.openedFor {items : List Model} {ambient : Model} {event : Event}
    {deeds : List Deed} (h : Expanded context templates items ambient event deeds) :
    deeds.filterMap Deed.openedFor? = if event = .tag Render.itemTag then items else [] := by
  cases h with
  | items hparts =>
    have hrecord (record : Model) (deeds : List Deed)
        (h : GoesThrough context templates (.item record) (Bound record (some record)) deeds) :
        deeds.filterMap Deed.openedFor? = [record] := Bound.openedFor h
    rw [if_pos rfl, openedFor_flatten hrecord hparts]
    simp
  | footer h =>
    rw [Bound.openedFor h, if_neg (by simp [Render.itemTag, Render.footerTag])]
    rfl
  | other hitem hfooter h =>
    rw [if_neg hitem]
    cases h <;> rfl

/-- **The item template is opened for all records at each of its tags**, and never otherwise. -/
theorem openedFor_header {items : List Model} {ambient : Model} {deeds : List Deed}
    (h : GoesThrough context templates .header (Expanded context templates items ambient) deeds) :
    ∃ found rest, deeds = .opens .header found :: rest ∧
      deeds.filterMap Deed.openedFor? = (List.replicate
        ((tagNames (templateEvents context templates.header found)).count Render.itemTag)
          items).flatten := by
  obtain ⟨found, rest, hopens, hdeeds⟩ := h.openedFor fun event deeds h => Expanded.openedFor h
  refine ⟨found, rest, hopens, hdeeds.trans ?_⟩
  change [] ++ (templateEvents context templates.header found).flatMap _ = _
  induction templateEvents context templates.header found with
  | nil => rfl
  | cons event events ih =>
    rw [List.nil_append] at ih ⊢
    rw [List.flatMap_cons, ih]
    cases event with
    | literal text => rfl
    | tag tag =>
      rw [show tagNames (.tag tag :: events) = tag :: tagNames events from rfl, List.count_cons]
      by_cases htag : tag = Render.itemTag
      · simp [htag, List.replicate_succ]
      · simp [htag]

end Records

/-! ## What deeds leave -/

/-- What a deed leaves in the sink: literals and values as they are, for a tag without a value what
some call of the callback appends. -/
inductive Deed.Gives (unmatched : String → Option Model → Render Unit) : Deed → String → Prop
  | opens (part : RepeaterPart) (found : List Signal) : Gives unmatched (.opens part found) ""
  | writes (text : String) : Gives unmatched (.writes text) text
  | calls (tag : String) (record : Option Model) {start last : Rendering} {text : String}
    (hcall : unmatched tag record start = (.ok (), last))
    (htext : last.sink.text = start.sink.text ++ text) : Gives unmatched (.calls tag record) text
  | ends (outcome : Except Failure Unit) : Gives unmatched (.ends outcome) ""

/-- **What is left of deeds**: each of them leaves its text, or one of them fails and none follows
it. Of that one nothing is left, but for what the callback wrote before it failed. -/
inductive Left (unmatched : String → Option Model → Render Unit) (deeds : List Deed)
    (start last : Rendering) : Except Failure Unit → Prop
  | whole {texts : List String} (hgives : List.Forall₂ (Deed.Gives unmatched) deeds texts)
    (htext : last.sink.text = start.sink.text ++ String.join texts) :
    Left unmatched deeds start last (.ok ())
  | cut {done rest : List Deed} {failed : Deed} {texts : List String} {rump : String}
    {error : Failure} (hdeeds : deeds = done ++ failed :: rest)
    (hgives : List.Forall₂ (Deed.Gives unmatched) done texts)
    (hrump : (∀ tag record, failed ≠ .calls tag record) → rump = "")
    (htext : last.sink.text = start.sink.text ++ String.join texts ++ rump) :
    Left unmatched deeds start last (.error error)

section Leaving

variable {context : Context} {templates : RepeaterParts}
  {unmatched : String → Option Model → Render Unit}

theorem openTemplate_sink {name : String} {start last : Rendering}
    {outcome : Except Failure (List Signal)}
    (h : Render.openTemplate context name start = (outcome, last)) : last.sink = start.sink := by
  have hlast := congrArg Prod.snd h
  exact (congrArg Rendering.sink hlast).symm

/-- A deed that is done leaves its text; one that fails leaves none, unless it was a call. -/
theorem Deed.Runs.leaves (happends : ∀ record, Appends fun tag => unmatched tag record)
    {deed : Deed} {start last : Rendering} {outcome : Except Failure Unit}
    (h : deed.Runs context templates unmatched start outcome last) :
    ∃ text, last.sink.text = start.sink.text ++ text ∧
      (outcome = .ok () → deed.Gives unmatched text) ∧
      (outcome ≠ .ok () → (∀ tag record, deed ≠ .calls tag record) → text = "") := by
  cases h with
  | @opened part found _ _ h =>
    refine ⟨"", ?_, fun _ => .opens part found, fun _ _ => rfl⟩
    rw [openTemplate_sink h, String.append_empty]
  | unopened h =>
    refine ⟨"", ?_, nofun, fun _ _ => rfl⟩
    rw [openTemplate_sink h, String.append_empty]
  | writes text =>
    rcases Render.write_cases text start with ⟨next, hnext, htext⟩ | ⟨next, hnext, htext⟩
    · rw [hnext]
      exact ⟨text, htext, fun _ => .writes text, fun hok => absurd rfl hok⟩
    · rw [hnext]
      exact ⟨"", htext.trans String.append_empty.symm, nofun, fun _ _ => rfl⟩
  | calls tag record =>
    obtain ⟨text, htext⟩ := happends record tag start
    refine ⟨text, htext, fun hok => ?_, fun _ hdeed => absurd rfl (hdeed tag record)⟩
    exact .calls tag record (Prod.ext hok rfl) htext
  | ends =>
    exact ⟨"", String.append_empty.symm, fun _ => .ends outcome, fun _ _ => rfl⟩

theorem Left.next {deed : Deed} {deeds : List Deed} {start middle last : Rendering}
    {outcome : Except Failure Unit} {text : String} (hgives : deed.Gives unmatched text)
    (htext : middle.sink.text = start.sink.text ++ text)
    (h : Left unmatched deeds middle last outcome) :
    Left unmatched (deed :: deeds) start last outcome := by
  have hjoin (texts : List String) :
      middle.sink.text ++ String.join texts = start.sink.text ++ String.join (text :: texts) := by
    rw [htext, String.append_assoc, String.join_cons]
  cases h with
  | whole hrest hlast => exact .whole (.cons hgives hrest) (hlast.trans (hjoin _))
  | cut hdeeds hdone hrump hlast =>
    refine .cut (congrArg (deed :: ·) hdeeds) (.cons hgives hdone) hrump ?_
    rw [hlast, hjoin]

/-- **What deeds leave that happen.** -/
theorem Happens.leaves (happends : ∀ record, Appends fun tag => unmatched tag record)
    {deeds : List Deed} {start last : Rendering} {outcome : Except Failure Unit}
    (h : Happens context templates unmatched deeds start outcome last) :
    Left unmatched deeds start last outcome := by
  induction h with
  | done start => exact .whole .nil String.append_empty.symm
  | next hdeed _ ih =>
    obtain ⟨text, htext, hgives, -⟩ := hdeed.leaves happends
    exact ih.next (hgives rfl) htext
  | @stop deed start last error hdeed deeds =>
    obtain ⟨text, htext, -, hrump⟩ := hdeed.leaves happends
    refine .cut (List.nil_append _).symm .nil (hrump nofun) ?_
    rw [htext]
    simp

/-- Without a callback, a tag without a value leaves nothing. -/
theorem Deed.gives_nothing {tag text : String} {record : Option Model}
    (h : (calls tag record).Gives (fun _ _ => pure ()) text) : text = "" := by
  cases h with
  | @calls _ _ start last _ hcall htext =>
    obtain rfl : start = last := (Prod.mk.inj hcall).2
    exact (String.append_right_inj _).mp (htext.symm.trans String.append_empty.symm)

end Leaving

/-! ## Repeaters -/

/-- **What a repeater does.** It goes through the header: each tag for the items stands for the item
template, gone through for each record in order and bound to it; each tag for the footer for the
footer's template, bound to the ambient model; every other tag is bound to the ambient model. The
reserved names stand for nothing else there, and for nothing special in the other templates. The
callback is called where a tag has no value, with the record inside items. All this happens in its
order until something fails. The item template is opened once for each record at each of its tags.
With a callback that only writes, the sink is left with the texts of what was done. -/
theorem Render.repeatRecords_happens (context : Context) (templates : RepeaterParts)
    (items : List Model) (ambient : Model) (unmatched : String → Option Model → Render Unit) :
    (∀ start, ∃ deeds,
      GoesThrough context templates .header (Expanded context templates items ambient) deeds ∧
        let run := Render.repeatRecords context templates items ambient unmatched start
        Happens context templates unmatched deeds start run.1 run.2) ∧
    (∀ deeds,
      GoesThrough context templates .header (Expanded context templates items ambient) deeds →
      ∃ found rest, deeds = .opens .header found :: rest ∧
        deeds.filterMap Deed.openedFor? = (List.replicate
          ((tagNames (templateEvents context templates.header found)).count Render.itemTag)
            items).flatten) ∧
    ((∀ record, Appends fun tag => unmatched tag record) → ∀ deeds start outcome last,
      Happens context templates unmatched deeds start outcome last →
        Left unmatched deeds start last outcome) ∧
    ∀ tag record text, (Deed.calls tag record).Gives (fun _ _ => pure ()) text → text = "" := by
  refine ⟨?_, fun deeds h => openedFor_header h,
    fun happends deeds start outcome last h => h.leaves happends,
    fun tag record text => Deed.gives_nothing⟩
  exact Does.goesThrough .header fun event => Does.expanded items ambient event

end Folio
