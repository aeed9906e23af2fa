import Folio.Proofs.Scanner.Events
import Mathlib.Data.List.Induction

/-!
# Sinks that reject

A rejection loses at most a tag: the one that was offered, or the one that stands behind the literal
text that was offered. Literal text is neither lost nor said twice, since it stays in the buffer
until it is taken.

* `noting`: a sink that writes down what it is offered, with the outcomes; `taken`: what it took.
* `Offered`: events are offered in order until one is rejected.
* `ScanMode.turn`: what a character does, whatever the sink makes of it.
* `Scanner.push_notes`: a push does what the turn says.
* `Scanner.pushAll`: push every character, whatever the outcomes.
* `Follows`, `Closes`: pushes next to the scan without rejections.
* **`rejections_lose_no_literals`**: every push follows that scan, and a scan stops at the first
  rejection.
-/

namespace Folio

variable {ε σ : Type}

/-! ## Noting offers -/

/-- Offers with their outcomes. -/
abbrev OfferLog (ε : Type) := List (Event × Except ε Unit)

/-- The sink that answers as `offer` does, and writes down every offer with its outcome. -/
def noting (offer : Offer ε σ) : Offer ε (σ × OfferLog ε) := fun event sink =>
  ((offer event sink.1).1, ((offer event sink.1).2, sink.2 ++ [(event, (offer event sink.1).1)]))

/-- The events that were taken. -/
def taken : OfferLog ε → List Event
  | [] => []
  | (event, .ok ()) :: log => event :: taken log
  | (_, .error _) :: log => taken log

/-- The literal text of events. -/
def literalText : List Event → String
  | [] => ""
  | .literal text :: events => text ++ literalText events
  | .tag _ :: events => literalText events

/-- The name of a tag. -/
def Event.tagName? : Event → Option String
  | .literal _ => none
  | .tag name => some name

/-- The names of the tags among events. -/
def tagNames (events : List Event) : List String :=
  events.filterMap Event.tagName?

@[simp] theorem taken_append (first second : OfferLog ε) :
    taken (first ++ second) = taken first ++ taken second := by
  induction first with
  | nil => rfl
  | cons entry first ih =>
    obtain ⟨event, outcome⟩ := entry
    cases outcome with
    | ok _ => exact congrArg (event :: ·) ih
    | error e => exact ih

@[simp] theorem taken_map_ok (events : List Event) :
    taken (events.map fun event => (event, (.ok () : Except ε Unit))) = events := by
  induction events with
  | nil => rfl
  | cons event events ih => exact congrArg (event :: ·) ih

theorem taken_sublist_map (log : OfferLog ε) : (taken log).Sublist (log.map Prod.fst) := by
  induction log with
  | nil => exact .slnil
  | cons entry log ih =>
    obtain ⟨event, outcome⟩ := entry
    cases outcome with
    | ok _ => exact ih.cons_cons _
    | error e => exact ih.cons _

@[simp] theorem literalText_append (first second : List Event) :
    literalText (first ++ second) = literalText first ++ literalText second := by
  induction first with
  | nil => exact String.empty_append.symm
  | cons event first ih =>
    cases event with
    | literal text => exact (congrArg (text ++ ·) ih).trans String.append_assoc.symm
    | tag name => exact ih

@[simp] theorem tagNames_append (first second : List Event) :
    tagNames (first ++ second) = tagNames first ++ tagNames second :=
  List.filterMap_append

@[simp] theorem literalText_literalRun (text : String) : literalText (literalRun text) = text := by
  unfold literalRun
  split
  · next h => exact (String.isEmpty_iff.mp h).symm
  · exact String.append_empty

@[simp] theorem tagNames_literalRun (text : String) : tagNames (literalRun text) = [] := by
  unfold literalRun
  split <;> rfl

/-! ## Offering until a rejection -/

/-- **Events are offered in order until one is rejected**; `outcome` is what the last offer gave. -/
inductive Offered : List Event → OfferLog ε → Except ε Unit → Prop
  | done : Offered [] [] (.ok ())
  | taken {event : Event} {events : List Event} {log : OfferLog ε} {outcome : Except ε Unit}
    (hrest : Offered events log outcome) :
    Offered (event :: events) ((event, .ok ()) :: log) outcome
  | rejected {event : Event} {events : List Event} {e : ε} :
    Offered (event :: events) [(event, .error e)] (.error e)

namespace Offered

variable {events more : List Event} {log log' : OfferLog ε} {outcome : Except ε Unit} {e : ε}

theorem append (h : Offered events log (.ok ())) (hmore : Offered more log' outcome) :
    Offered (events ++ more) (log ++ log') outcome := by
  generalize hok : (.ok () : Except ε Unit) = first at h
  induction h with
  | done => exact hmore
  | taken hrest ih => exact .taken (ih hok)
  | rejected => cases hok

theorem append_of_error (h : Offered events log (.error e)) (more : List Event) :
    Offered (events ++ more) log (.error e) := by
  generalize herror : (.error e : Except ε Unit) = last at h
  induction h with
  | done => cases herror
  | taken hrest ih => exact .taken (ih herror)
  | rejected => exact .rejected

/-- Without a rejection, everything is offered and taken. -/
theorem eq_map_of_ok (h : Offered events log (.ok ())) :
    log = events.map fun event => (event, .ok ()) := by
  generalize hok : (.ok () : Except ε Unit) = last at h
  induction h with
  | done => rfl
  | taken hrest ih =>
    rw [ih hok, ← hok]
    rfl
  | rejected => cases hok

theorem taken_of_ok (h : Offered events log (.ok ())) : Folio.taken log = events := by
  rw [h.eq_map_of_ok, taken_map_ok]

theorem taken_sublist (h : Offered events log outcome) : (Folio.taken log).Sublist events := by
  induction h with
  | done => exact .slnil
  | taken hrest ih => exact ih.cons_cons _
  | rejected => exact List.nil_sublist _

/-- A rejection strikes the first events or the others. -/
theorem of_append (h : Offered (events ++ more) log outcome) :
    (∃ first second, Offered events first (.ok ()) ∧ Offered more second outcome ∧
      log = first ++ second) ∨ ∃ e, outcome = .error e ∧ Offered events log (.error e) := by
  induction events generalizing log with
  | nil => exact .inl ⟨[], log, .done, h, rfl⟩
  | cons event events ih =>
    cases h with
    | taken hrest =>
      rcases ih hrest with ⟨first, second, hfirst, hsecond, rfl⟩ | ⟨e, he, hevents⟩
      · exact .inl ⟨_, second, .taken hfirst, hsecond, rfl⟩
      · exact .inr ⟨e, he, .taken hevents⟩
    | rejected => exact .inr ⟨_, rfl, .rejected⟩

/-- **The three fates of a tag**: it is taken, it is rejected, or the literal text before it is. -/
theorem tag_cases {pending name : String}
    (h : Offered (literalRun pending ++ [.tag name]) log outcome) :
    (∃ first, Offered (literalRun pending) first (.ok ()) ∧ log = first ++ [(.tag name, .ok ())]) ∨
    (∃ first e, Offered (literalRun pending) first (.ok ()) ∧
      log = first ++ [(.tag name, .error e)]) ∨
    ∃ e, log = [(.literal pending, .error e)] := by
  rcases h.of_append with ⟨first, second, hfirst, hsecond, rfl⟩ | ⟨e, -, hrun⟩
  · cases hsecond with
    | taken hrest =>
      cases hrest
      exact .inl ⟨first, hfirst, rfl⟩
    | rejected => exact .inr (.inl ⟨first, _, hfirst, rfl⟩)
  · unfold literalRun at hrun
    split at hrun
    · cases hrun
    · cases hrun with
      | taken hrest => cases hrest
      | rejected => exact .inr (.inr ⟨e, rfl⟩)

end Offered

/-- Offering events to a noting sink. -/
theorem offerAll_noting (offer : Offer ε σ) (events : List Event) (sink : σ) (log : OfferLog ε) :
    ∃ offers, offerAll (noting offer) events (sink, log) =
        ((offerAll offer events sink).1, ((offerAll offer events sink).2, log ++ offers)) ∧
      Offered events offers (offerAll offer events sink).1 := by
  induction events generalizing sink log with
  | nil => exact ⟨[], by rw [List.append_nil]; rfl, .done⟩
  | cons event events ih =>
    cases h : offer event sink with
    | mk outcome sink' =>
      cases outcome with
      | ok _ =>
        obtain ⟨offers, hoffers, hoffered⟩ := ih sink' (log ++ [(event, .ok ())])
        refine ⟨(event, .ok ()) :: offers, ?_, ?_⟩
        · simpa [offerAll, noting, h] using hoffers
        · simpa [offerAll, h] using Offered.taken hoffered
      | error e =>
        refine ⟨[(event, .error e)], by simp [offerAll, noting, h], ?_⟩
        simpa [offerAll, h] using Offered.rejected

/-! ## Turns -/

/-- What a character does, whatever the sink makes of it: the mode after it, the literal text that
it adds, and the tag that it closes. -/
structure Turn where
  mode : ScanMode
  added : String := ""
  tag : Option String := none

/-- **What a character does.** -/
def ScanMode.turn (options : ScanOptions) (mode : ScanMode) (c : Char) : Turn :=
  if options.stripLineBreaks && isLineBreak c then { mode := mode }
  else
    match mode with
    | .literal =>
      if c = options.delimiter then { mode := .tag "" }
      else { mode := .literal, added := String.singleton c }
    | .tag raw =>
      if c = options.delimiter then
        if raw.isEmpty then { mode := .literal, added := String.singleton c }
        else
          match options.rootedPath? (trim raw) with
          | some path => { mode := .literal, added := path }
          | none => { mode := .literal, tag := some (trim raw) }
      else if c == ' ' || isLineBreak c then
        { mode := .literal, added := Scanner.abandoned options raw ++ String.singleton c }
      else { mode := .tag (raw.push c) }

/-- The step makes the offers, and does what the turn says: literal text is taken or left pending,
and a tag is offered behind what was pending. -/
structure ScanStep.Notes (step : ScanStep ε (σ × OfferLog ε)) (s : Scanner) (log : OfferLog ε)
    (turn : Turn) (offers : OfferLog ε) : Prop where
  noted : step.sink.2 = log ++ offers
  mode : step.scanner.mode = turn.mode
  kept : literalText (taken offers) ++ step.scanner.pending = s.pending ++ turn.added
  closed : ∀ name, turn.tag = some name →
    Offered (literalRun s.pending ++ [.tag name]) offers step.outcome
  unclosed : turn.tag = none → tagNames (offers.map Prod.fst) = []

theorem tagNames_sublist {first second : List Event} (h : first.Sublist second) :
    (tagNames first).Sublist (tagNames second) :=
  h.filterMap _

/-- No tag is taken but the one that the turn closes. -/
theorem ScanStep.Notes.tagNames_sublist {step : ScanStep ε (σ × OfferLog ε)} {s : Scanner}
    {log offers : OfferLog ε} {turn : Turn} (h : step.Notes s log turn offers) :
    (tagNames (taken offers)).Sublist turn.tag.toList := by
  cases htag : turn.tag with
  | none =>
    rw [Option.toList_none, ← h.unclosed htag]
    exact Folio.tagNames_sublist (taken_sublist_map offers)
  | some name =>
    have hsub := Folio.tagNames_sublist (h.closed name htag).taken_sublist
    rwa [tagNames_append, tagNames_literalRun] at hsub

namespace Scanner

variable (options : ScanOptions) (offer : Offer ε σ) (s : Scanner)

/-- A step that makes no offer. -/
theorem notes_silent {s next : Scanner} (sink : σ × OfferLog ε) {turn : Turn}
    (hmode : next.mode = turn.mode) (hpending : next.pending = s.pending ++ turn.added)
    (htag : turn.tag = none) :
    (⟨.ok (), next, sink⟩ : ScanStep ε (σ × OfferLog ε)).Notes s sink.2 turn [] where
  noted := (List.append_nil _).symm
  mode := hmode
  kept := String.empty_append.trans hpending
  closed name hname := by rw [htag] at hname; cases hname
  unclosed _ := rfl

theorem flush_notes (sink : σ × OfferLog ε) :
    ∃ offers, (s.flush (noting offer) sink).Notes s sink.2 { mode := s.mode } offers ∧
      Offered (literalRun s.pending) offers (s.flush (noting offer) sink).outcome := by
  unfold flush literalRun
  split
  · exact ⟨[], notes_silent sink rfl String.append_empty.symm rfl, .done⟩
  · cases h : offer (.literal s.pending) sink.1 with
    | mk outcome sink' =>
      cases outcome with
      | ok _ =>
        refine ⟨[(.literal s.pending, .ok ())], ⟨?_, ?_, ?_, nofun, fun _ => rfl⟩, ?_⟩
        · simp [noting, h]
        · simp [noting, h]
        · simp [noting, h, taken, literalText]
        · simpa [noting, h] using Offered.taken .done
      | error e =>
        refine ⟨[(.literal s.pending, .error e)], ⟨?_, ?_, ?_, nofun, fun _ => rfl⟩, ?_⟩
        · simp [noting, h]
        · simp [noting, h]
        · simp [noting, h, taken, literalText]
        · simpa [noting, h] using Offered.rejected

theorem pushPlain_notes (c : Char) (sink : σ × OfferLog ε) :
    ∃ offers, (s.pushPlain (noting offer) c sink).Notes s sink.2
      { mode := .literal, added := String.singleton c } offers := by
  unfold pushPlain
  dsimp only
  split
  · obtain ⟨offers, hnotes, -⟩ :=
      flush_notes offer { mode := .literal, pending := s.pending.push c } sink
    refine ⟨offers, hnotes.noted, hnotes.mode, ?_, nofun, hnotes.unclosed⟩
    rw [hnotes.kept, String.append_empty, String.append_singleton]
  · exact ⟨[], notes_silent sink rfl String.append_singleton.symm rfl⟩

theorem close_notes (raw : String) (sink : σ × OfferLog ε) :
    ∃ offers, (s.close options (noting offer) raw sink).Notes s sink.2
      (match options.rootedPath? (trim raw) with
        | some path => { mode := .literal, added := path }
        | none => { mode := .literal, tag := some (trim raw) }) offers := by
  unfold close
  cases options.rootedPath? (trim raw) with
  | some path => exact ⟨[], notes_silent sink rfl rfl rfl⟩
  | none =>
    obtain ⟨offers, hnotes, hoffered⟩ := flush_notes offer { s with mode := .literal } sink
    dsimp only
    cases h : { s with mode := .literal }.flush (noting offer) sink with
    | mk outcome scanner sink' =>
      rw [h] at hnotes hoffered
      cases outcome with
      | error e =>
        refine ⟨offers, hnotes.noted, hnotes.mode, hnotes.kept, ?_, nofun⟩
        rintro name ⟨⟩
        exact hoffered.append_of_error _
      | ok _ =>
        -- The literal text is taken, and the tag is offered behind it.
        refine ⟨offers ++ [(.tag (trim raw), (offer (.tag (trim raw)) sink'.1).1)], ?_, hnotes.mode,
          ?_, ?_, nofun⟩
        · rw [← List.append_assoc, ← hnotes.noted]
          rfl
        · rw [taken_append, literalText_append]
          cases (offer (.tag (trim raw)) sink'.1).1 <;>
            simpa [taken, literalText] using hnotes.kept
        · rintro name ⟨⟩
          refine hoffered.append ?_
          dsimp only [noting]
          cases (offer (.tag (trim raw)) sink'.1).1 with
          | ok _ => exact .taken .done
          | error e => exact .rejected

/-- **A push does what the turn says.** -/
theorem push_notes (c : Char) (sink : σ × OfferLog ε) :
    ∃ offers, (s.push options (noting offer) c sink).Notes s sink.2 (s.mode.turn options c)
      offers := by
  unfold push ScanMode.turn
  split
  · exact ⟨[], notes_silent sink rfl String.append_empty.symm rfl⟩
  · cases s.mode with
    | literal =>
      dsimp only
      split
      · exact ⟨[], notes_silent sink rfl String.append_empty.symm rfl⟩
      · exact pushPlain_notes offer s c sink
    | tag raw =>
      dsimp only
      split
      · split
        · exact ⟨[], notes_silent sink rfl String.append_singleton.symm rfl⟩
        · exact close_notes options offer s raw sink
      · split
        · obtain ⟨offers, hnotes⟩ := pushPlain_notes offer
            { mode := .tag raw, pending := s.pending ++ abandoned options raw } c sink
          refine ⟨offers, hnotes.noted, hnotes.mode, ?_, nofun, hnotes.unclosed⟩
          rw [hnotes.kept, String.append_assoc]
        · exact ⟨[], notes_silent sink rfl String.append_empty.symm rfl⟩

/-- **So does a push that nothing is rejected of.** -/
theorem move_turn (c : Char) :
    (s.move options c).2.mode = (s.mode.turn options c).mode ∧
      literalText (s.move options c).1 ++ (s.move options c).2.pending =
        s.pending ++ (s.mode.turn options c).added ∧
      tagNames (s.move options c).1 = (s.mode.turn options c).tag.toList := by
  -- The sink that takes everything down offers the events of the character, and takes them all.
  obtain ⟨offers, hnotes⟩ := push_notes options taking s c ([], [])
  obtain ⟨offers', hall, hoffered⟩ := offerAll_noting taking (s.move options c).1 [] []
  have hok : (offerAll taking (s.move options c).1 []).1 = .ok () := by
    rw [offerAll_of_accepting fun _ _ => rfl]
  rw [hok] at hall hoffered
  have hpush := push_offers options (noting taking) s c ([], [])
  have hstep := hpush.offered.trans hall
  rw [Prod.mk.injEq] at hstep
  have hsame : offers' = offers := (congrArg Prod.snd hstep.2).symm.trans hnotes.noted
  have htaken : taken offers = (s.move options c).1 := hsame ▸ hoffered.taken_of_ok
  have hnext := hpush.left hstep.1
  refine ⟨hnext ▸ hnotes.mode, ?_, ?_⟩
  · rw [← htaken, ← hnext]
    exact hnotes.kept
  · rw [← htaken]
    cases htag : (s.mode.turn options c).tag with
    | none =>
      have hsub := hnotes.tagNames_sublist
      rw [htag] at hsub
      exact List.sublist_nil.mp hsub
    | some name =>
      have hclosed := hnotes.closed name htag
      rw [hstep.1] at hclosed
      rw [hclosed.taken_of_ok, tagNames_append, tagNames_literalRun]
      rfl

/-! ## Pushing on regardless -/

/-- Push every character, whatever the outcomes. -/
def pushAll (s : Scanner) (sink : σ) : List Char → Scanner × σ
  | [] => (s, sink)
  | c :: cs =>
    let step := s.push options offer c sink
    pushAll step.scanner step.sink cs

theorem pushAll_concat (sink : σ) (cs : List Char) (c : Char) :
    s.pushAll options offer sink (cs ++ [c]) =
      let now := s.pushAll options offer sink cs
      let step := now.1.push options offer c now.2
      (step.scanner, step.sink) := by
  induction cs generalizing s sink with
  | nil => rfl
  | cons d cs ih => exact ih _ _

theorem moves_concat (cs : List Char) (c : Char) :
    s.moves options (cs ++ [c]) =
      let now := s.moves options cs
      (now.1 ++ (now.2.move options c).1, (now.2.move options c).2) := by
  induction cs generalizing s with
  | nil => simp [moves]
  | cons d cs ih => simp only [List.cons_append, moves, ih, List.append_assoc]

end Scanner

section Following

variable (options : ScanOptions)

/-- The mode of a scanner after a text. -/
def modeAfter (text : String) : ScanMode :=
  (({} : Scanner).moves options text.toList).2.mode

/-- What one more character adds to the scan of a text. -/
theorem eventsOf_push (text : String) (c : Char) :
    modeAfter options (text.push c) = ((modeAfter options text).turn options c).mode ∧
      literalText (eventsOf options (text.push c)) =
        literalText (eventsOf options text) ++ ((modeAfter options text).turn options c).added ∧
      tagNames (eventsOf options (text.push c)) =
        tagNames (eventsOf options text) ++
          ((modeAfter options text).turn options c).tag.toList := by
  have hmoves := Scanner.moves_concat options {} text.toList c
  obtain ⟨hmode, hliteral, htags⟩ :=
    Scanner.move_turn options (({} : Scanner).moves options text.toList).2 c
  simp only [modeAfter, eventsOf, Scanner.said, String.toList_push, hmoves, literalText_append,
    literalText_literalRun, tagNames_append, tagNames_literalRun, List.append_nil]
  refine ⟨hmode, ?_, ?_⟩
  · rw [String.append_assoc, hliteral, String.append_assoc]
  · rw [htags]

/-- **Next to the scan without rejections**: the scanner is in the same mode, the literal text that
was taken and what is pending are the literal text of that scan, and the tags that were taken are
among its tags, in order. -/
structure Follows (text : String) (s : Scanner) (log : OfferLog ε) : Prop where
  mode : s.mode = modeAfter options text
  literals : literalText (taken log) ++ s.pending = literalText (eventsOf options text)
  tags : (tagNames (taken log)).Sublist (tagNames (eventsOf options text))

variable {options} in
theorem ScanStep.Notes.follows {text : String} {c : Char} {s : Scanner} {log offers : OfferLog ε}
    {step : ScanStep ε (σ × OfferLog ε)} (h : Follows options text s log)
    (hnotes : step.Notes s log (s.mode.turn options c) offers) :
    Follows options (text.push c) step.scanner step.sink.2 := by
  obtain ⟨hmode, hliteral, htags⟩ := eventsOf_push options text c
  rw [h.mode] at hnotes
  refine ⟨hnotes.mode.trans hmode.symm, ?_, ?_⟩
  · rw [hnotes.noted, taken_append, literalText_append, String.append_assoc, hnotes.kept, hliteral,
      ← h.literals, String.append_assoc]
  · rw [hnotes.noted, taken_append, tagNames_append, htags]
    exact h.tags.append hnotes.tagNames_sublist

/-- **After every push.** -/
theorem Scanner.pushAll_follows (offer : Offer ε σ) (sink : σ) (text : String) :
    let now := ({} : Scanner).pushAll options (noting offer) (sink, []) text.toList
    Follows options text now.1 now.2.2 := by
  dsimp only
  rw [← String.ofList_toList (s := text)]
  generalize text.toList = cs
  rw [String.toList_ofList]
  induction cs using List.reverseRecOn with
  | nil => exact ⟨rfl, rfl, .slnil⟩
  | append_singleton cs c ih =>
    obtain ⟨offers, hnotes⟩ := Scanner.push_notes options offer _ c _
    rw [Scanner.pushAll_concat, String.ofList_append]
    have hnext := hnotes.follows ih
    rwa [← String.append_singleton] at hnext

/-- **A push that closes the tag `name`**, after the offers of `log` and with the text `pending`. -/
structure Closes (text name pending : String) (log offers : OfferLog ε) (outcome : Except ε Unit) :
    Prop where
  offered : Offered (literalRun pending ++ [.tag name]) offers outcome
  /-- The tag is missing exactly if its own offer or that of the text before it was rejected. -/
  missing : tagNames (taken offers) ≠ [name] ↔
    ∃ e, (.tag name, .error e) ∈ offers ∨ (.literal pending, .error e) ∈ offers
  /-- All literal text before a tag that is taken has been taken before it. -/
  settled : tagNames (taken offers) = [name] →
    ∃ first, offers = first ++ [(.tag name, .ok ())] ∧
      literalText (taken (log ++ first)) = literalText (eventsOf options text)

variable {options} in
theorem Follows.closes {text name : String} {s : Scanner} {log offers : OfferLog ε}
    {outcome : Except ε Unit} (h : Follows options text s log)
    (hoffered : Offered (literalRun s.pending ++ [.tag name]) offers outcome) :
    Closes options text name s.pending log offers outcome := by
  rcases hoffered.tag_cases with ⟨first, hfirst, rfl⟩ | ⟨first, e, hfirst, rfl⟩ | ⟨e, rfl⟩
  · have htaken : tagNames (taken (first ++ [(.tag name, .ok ())])) = [name] := by
      rw [taken_append, hfirst.taken_of_ok, tagNames_append, tagNames_literalRun]
      rfl
    refine ⟨hoffered, ?_, fun _ => ⟨first, rfl, ?_⟩⟩
    · rw [htaken, hfirst.eq_map_of_ok]
      simp
    · rw [taken_append, literalText_append, hfirst.taken_of_ok, literalText_literalRun, h.literals]
  · have htaken : tagNames (taken (first ++ [(.tag name, .error e)])) = [] := by
      rw [taken_append, hfirst.taken_of_ok, tagNames_append, tagNames_literalRun]
      rfl
    refine ⟨hoffered, ?_, ?_⟩
    · rw [htaken]
      exact iff_of_true (by simp) ⟨e, .inl (List.mem_append_right first List.mem_cons_self)⟩
    · rw [htaken]
      simp
  · exact ⟨hoffered, by simp [taken, tagNames], by simp [taken, tagNames]⟩

end Following

/-- **Rejections lose no literal text.** Whichever offers the sink rejects:

* If every character is pushed whatever the outcomes, then after each of them the scanner follows
  the scan without rejections. A character that closes a tag there offers it, behind the pending
  text, and the tag is missing exactly if one of these two offers is rejected; no other character
  offers a tag.
* A scan offers the events of the text up to and including the first that is rejected, and ends with
  that rejection. -/
theorem rejections_lose_no_literals (options : ScanOptions) (offer : Offer ε σ) (sink : σ) :
    (∀ text : String,
      let now := ({} : Scanner).pushAll options (noting offer) (sink, []) text.toList
      Follows options text now.1 now.2.2 ∧
      ∀ c, ∃ offers,
        let step := now.1.push options (noting offer) c now.2
        ({} : Scanner).pushAll options (noting offer) (sink, []) (text.push c).toList =
            (step.scanner, step.sink) ∧
          step.sink.2 = now.2.2 ++ offers ∧
          ((tagNames (eventsOf options (text.push c)) = tagNames (eventsOf options text) ∧
              tagNames (offers.map Prod.fst) = []) ∨
            ∃ name,
              tagNames (eventsOf options (text.push c)) =
                  tagNames (eventsOf options text) ++ [name] ∧
                Closes options text name now.1.pending now.2.2 offers step.outcome)) ∧
    ∀ text : String, ∃ log,
      scanText options (noting offer) text (sink, []) =
          ((scanText options offer text sink).1, ((scanText options offer text sink).2, log)) ∧
        Offered (eventsOf options text) log (scanText options offer text sink).1 := by
  refine ⟨fun text => ?_, fun text => ?_⟩
  · have hfollows := Scanner.pushAll_follows options offer sink text
    refine ⟨hfollows, fun c => ?_⟩
    obtain ⟨offers, hnotes⟩ := Scanner.push_notes options offer
      (({} : Scanner).pushAll options (noting offer) (sink, []) text.toList).1 c
      (({} : Scanner).pushAll options (noting offer) (sink, []) text.toList).2
    refine ⟨offers, by rw [String.toList_push, Scanner.pushAll_concat], hnotes.noted, ?_⟩
    obtain ⟨-, -, htags⟩ := eventsOf_push options text c
    rw [htags, ← hfollows.mode]
    cases htag : (ScanMode.turn options
        (({} : Scanner).pushAll options (noting offer) (sink, []) text.toList).1.mode c).tag with
    | none => exact .inl ⟨List.append_nil _, hnotes.unclosed htag⟩
    | some name => exact .inr ⟨name, rfl, hfollows.closes (hnotes.closed name htag)⟩
  · obtain ⟨log, hlog, hoffered⟩ := offerAll_noting offer (eventsOf options text) sink []
    have hscan {τ : Type} (offer : Offer ε τ) (sink : τ) :
        scanText options offer text sink = offerAll offer (eventsOf options text) sink := by
      rw [scanText, scan_eq_offerAll, saidOf_text, ending_map_ok]
      rcases offerAll offer (eventsOf options text) sink with ⟨_ | _, _⟩ <;> rfl
    rw [hscan, hscan]
    exact ⟨log, by rwa [List.nil_append] at hlog, hoffered⟩

end Folio
