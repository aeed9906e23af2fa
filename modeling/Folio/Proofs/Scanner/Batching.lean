import Folio.Proofs.Scanner.Buffering
import Mathlib.Data.List.Chain

/-!
# Runs of literal text

Literal text is offered in three places: when a plain character fills the buffer, before a tag, and
at the end. Wherever it is cut, the runs are not empty, a run is followed by another one only if it
is full, and between two tags they are together what entered the buffer between these tags.

* `Event.MayPrecede`, **`Batched`**: how literal text is cut into runs.
* `Scanner.Emits`: the events of one character; `Scanner.move_emits`.
* `BatchedSoFar`: the invariant. So far the runs are cut in this way, and another one may follow.
* `Scanner.said_tag`: where a tag comes from.
* `ScanMode.intake`: what characters put into the buffer, and the tags that they close.
* `Scanner.joined_said_intake`: what is offered is what was put in.
* **`literal_runs`**: the runs of every text, for every sink that rejects nothing.
-/

namespace Folio

variable {ε σ : Type}

/-! ## Batches -/

/-- Literal text is followed by literal text only if it fills the buffer. -/
def Event.MayPrecede : Event → Event → Prop
  | .literal first, .literal _ => flushBytes ≤ first.utf8ByteSize
  | _, _ => True

theorem Event.mayPrecede_tag (event : Event) (name : String) : event.MayPrecede (.tag name) := by
  cases event <;> trivial

/-- **Literal text in batches**: no run is empty, and none is followed by another one but full
ones. -/
structure Batched (events : List Event) : Prop where
  nonempty : Event.literal "" ∉ events
  full : events.IsChain Event.MayPrecede

/-- Events in batches, after which a run of any size may follow. -/
structure BatchedSoFar (events : List Event) : Prop extends Batched events where
  ready : ∀ last ∈ events.getLast?, ∀ text, last.MayPrecede (.literal text)

theorem batchedSoFar_nil : BatchedSoFar [] :=
  ⟨⟨List.not_mem_nil, .nil⟩, nofun⟩

theorem Batched.concat {events : List Event} {next : Event} (h : Batched events)
    (hnext : next ≠ .literal "") (hlast : ∀ last ∈ events.getLast?, last.MayPrecede next) :
    Batched (events ++ [next]) where
  nonempty := by
    rw [List.mem_append, List.mem_singleton, not_or]
    exact ⟨h.nonempty, hnext.symm⟩
  full := by
    refine List.isChain_append.mpr ⟨h.full, .singleton next, fun last hmem first hfirst => ?_⟩
    obtain rfl : next = first := Option.some.inj hfirst
    exact hlast last hmem

/-- The end of the text, or what stands before a tag. -/
theorem BatchedSoFar.literalRun {events : List Event} (h : BatchedSoFar events) (text : String) :
    Batched (events ++ literalRun text) := by
  unfold Folio.literalRun
  split
  · rw [List.append_nil]
    exact h.toBatched
  · next hne =>
    refine h.concat ?_ fun last hlast => h.ready last hlast text
    rintro ⟨⟩
    exact hne rfl

theorem Batched.tag {events : List Event} (h : Batched events) (name : String) :
    BatchedSoFar (events ++ [.tag name]) where
  toBatched := h.concat nofun fun last _ => last.mayPrecede_tag name
  ready := by simp [Event.MayPrecede]

theorem BatchedSoFar.fullRun {events : List Event} (h : BatchedSoFar events) {text : String}
    (hfull : flushBytes ≤ text.utf8ByteSize) : BatchedSoFar (events ++ [.literal text]) where
  toBatched := by
    refine h.concat ?_ fun last hlast => h.ready last hlast text
    rintro ⟨⟩
    exact absurd hfull (by decide)
  ready := by simpa [Event.MayPrecede] using hfull

/-! ## The events of one character -/

/-- **The events of one character**: none, a full run, or a tag behind all that was pending. -/
inductive Scanner.Emits (s : Scanner) : List Event → Scanner → Prop
  | silent (next : Scanner) : s.Emits [] next
  | full {text : String} (next : Scanner) (h : flushBytes ≤ text.utf8ByteSize) :
    s.Emits [.literal text] next
  | closed (name : String) : s.Emits (literalRun s.pending ++ [.tag name]) {}

namespace Scanner

variable {options : ScanOptions}

theorem pushPlain_emits (s before : Scanner) (c : Char) :
    before.Emits (s.pushPlain taking c []).sink (s.pushPlain taking c []).scanner := by
  unfold pushPlain
  dsimp only
  split
  · next hfull =>
    have hne : (s.pending.push c).isEmpty = false := by simp
    rw [flush_taking, literalRun, hne]
    exact .full _ hfull
  · exact .silent _

theorem move_emits (options : ScanOptions) (s : Scanner) (c : Char) :
    s.Emits (s.move options c).1 (s.move options c).2 := by
  by_cases hdrop : options.stripLineBreaks = true ∧ isLineBreak c = true
  · rw [move_dropped options s hdrop.1 hdrop.2]
    exact .silent s
  rw [move_keeping options s (by simpa using hdrop)]
  obtain ⟨mode, p⟩ := s
  cases mode with
  | literal =>
    by_cases hd : c = options.delimiter
    · subst hd
      rw [move_open]
      exact .silent _
    · rw [move_plain options p hd]
      exact pushPlain_emits _ _ c
  | tag raw =>
    by_cases hd : c = options.delimiter
    · subst hd
      by_cases hempty : raw = ""
      · subst hempty
        rw [move_doubled]
        exact .silent _
      · rw [move_close options p hempty]
        cases options.rootedPath? (trim raw) with
        | some path => exact .silent _
        | none => exact .closed (trim raw)
    by_cases hbreak : c = ' ' ∨ c = '\r' ∨ c = '\n'
    · rw [move_break options raw p ⟨hd, hbreak⟩]
      exact pushPlain_emits _ _ c
    · have hc : c ≠ options.delimiter ∧ c ≠ ' ' ∧ c ≠ '\r' ∧ c ≠ '\n' := by
        simpa [hd] using hbreak
      rw [move_inTag options raw p hc]
      exact .silent _

theorem Emits.batchedSoFar {s next : Scanner} {events more : List Event} (hmore : s.Emits more next)
    (h : BatchedSoFar events) : BatchedSoFar (events ++ more) := by
  cases hmore with
  | silent => rwa [List.append_nil]
  | full _ hfull => exact h.fullRun hfull
  | closed name =>
    rw [← List.append_assoc]
    exact (h.literalRun s.pending).tag name

/-- **So far the runs are cut in batches**, and another one may follow. -/
theorem batchedSoFar_moves (options : ScanOptions) (s : Scanner) (cs : List Char) :
    BatchedSoFar (s.moves options cs).1 := by
  induction cs using List.reverseRecOn with
  | nil => exact batchedSoFar_nil
  | append_singleton cs c ih =>
    rw [moves_concat]
    exact (move_emits options _ c).batchedSoFar ih

/-! ## Where a tag comes from -/

/-- The one tag among the events of a character is the last of them. -/
theorem Emits.eq_closed {s next : Scanner} {events before after : List Event} {name : String}
    (h : s.Emits events next) (hevents : events = before ++ .tag name :: after) :
    before = literalRun s.pending ∧ events = literalRun s.pending ++ [.tag name] ∧
      next = {} := by
  cases h with
  | silent => simp at hevents
  | full _ _ =>
    have hmem : Event.tag name ∈ before ++ .tag name :: after := by simp
    simp [← hevents] at hmem
  | closed last =>
    unfold literalRun at hevents ⊢
    split at hevents
    · cases before <;> simp_all
    · rcases before with _ | ⟨_, _ | _⟩ <;> simp_all

/-- **Where a tag comes from**: from a character that closes it, and the events before it are those
of the characters before that one, and their pending text. -/
theorem said_tag {s : Scanner} {cs : List Char} {before after : List Event} {name : String}
    (h : s.said options cs = before ++ .tag name :: after) :
    ∃ read c rest, cs = read ++ c :: rest ∧
      let now := s.moves options read
      before = now.1 ++ literalRun now.2.pending ∧
        now.2.move options c = (literalRun now.2.pending ++ [.tag name], {}) := by
  induction cs generalizing s before with
  | nil =>
    have hmem : Event.tag name ∈ s.said options [] := by simp [h]
    unfold said moves literalRun at hmem
    split at hmem <;> simp at hmem
  | cons c cs ih =>
    rw [said_cons] at h
    have hlater (before' : List Event) (hbefore : before = (s.move options c).1 ++ before')
        (hsaid : (s.move options c).2.said options cs = before' ++ .tag name :: after) :
        ∃ read d rest, c :: cs = read ++ d :: rest ∧
          let now := s.moves options read
          before = now.1 ++ literalRun now.2.pending ∧
            now.2.move options d = (literalRun now.2.pending ++ [.tag name], {}) := by
      obtain ⟨read, d, rest, rfl, rfl, hmove⟩ := ih hsaid
      exact ⟨c :: read, d, rest, rfl, by rw [hbefore, moves, List.append_assoc], hmove⟩
    rcases List.append_eq_append_iff.mp h with
      ⟨before', hbefore, hsaid⟩ | ⟨bs, hevents, hsaid⟩
    · exact hlater before' hbefore hsaid
    · cases bs with
      | nil =>
        rw [List.append_nil] at hevents
        exact hlater [] (by rw [hevents, List.append_nil]) hsaid.symm
      | cons event bs =>
        obtain rfl : event = .tag name := (List.cons.inj hsaid).1.symm
        obtain ⟨hbefore, hmove, hnext⟩ := (move_emits options s c).eq_closed hevents
        exact ⟨[], c, cs, rfl, hbefore, Prod.ext hmove hnext⟩

end Scanner

/-! ## What enters the buffer -/

/-- **What characters put into the buffer**, one after the other, and the tags that they close. -/
def ScanMode.intake (options : ScanOptions) : ScanMode → List Char → List Event
  | _, [] => []
  | mode, c :: cs =>
    let turn := mode.turn options c
    literalRun turn.added ++ turn.tag.toList.map .tag ++ turn.mode.intake options cs

/-- Events without a tag are joined to one run. -/
theorem joined_append_of_untagged {events : List Event} (h : tagNames events = [])
    (more : List Event) :
    joined (events ++ more) = joinFront (literalText events) (joined more) := by
  induction events with
  | nil => exact (joinFront_empty _).symm
  | cons event events ih =>
    cases event with
    | literal text => rw [List.cons_append, joined, ih h, joinFront_joinFront, literalText]
    | tag name => cases h

namespace Scanner

variable (options : ScanOptions)

variable {options} in
/-- A character that closes a tag has the tag offered behind all that was pending, and puts nothing
into the buffer. -/
theorem move_of_tag {s : Scanner} {c : Char} {name : String}
    (htag : (s.mode.turn options c).tag = some name) :
    s.move options c = (literalRun s.pending ++ [.tag name], {}) ∧
      (s.mode.turn options c).added = "" := by
  obtain ⟨-, hkept, htags⟩ := move_turn options s c
  have hemits := move_emits options s c
  rw [htag, Option.toList_some] at htags
  generalize s.move options c = moved at hemits hkept htags ⊢
  obtain ⟨events, next⟩ := moved
  cases hemits with
  | silent => cases htags
  | full _ _ => cases htags
  | closed last =>
    change tagNames (literalRun s.pending ++ [.tag last]) = [name] at htags
    change literalText (literalRun s.pending ++ [.tag last]) ++ "" = _ at hkept
    rw [tagNames_append, tagNames_literalRun] at htags
    rw [literalText_append, literalText_literalRun, String.append_assoc] at hkept
    obtain rfl : last = name := (List.cons.inj htags).1
    exact ⟨rfl, ((String.append_right_inj s.pending).mp hkept).symm⟩

/-- **What is offered is what was put in**, behind what was pending. -/
theorem joined_said_intake (s : Scanner) (cs : List Char) :
    joined (s.said options cs) = joinFront s.pending (joined (s.mode.intake options cs)) := by
  induction cs generalizing s with
  | nil =>
    rw [ScanMode.intake, ← joined_literalRun_append, List.append_nil]
    rfl
  | cons c cs ih =>
    obtain ⟨hmode, hkept, htags⟩ := move_turn options s c
    have hrest := ih (s.move options c).2
    rw [hmode] at hrest
    rw [said_cons, ScanMode.intake]
    cases htag : (s.mode.turn options c).tag with
    | none =>
      rw [htag] at htags
      rw [joined_append_of_untagged htags, hrest, joinFront_joinFront, hkept, Option.toList_none,
        List.map_nil, List.append_nil, joined_literalRun_append, joinFront_joinFront]
    | some name =>
      obtain ⟨hmove, hadded⟩ := move_of_tag htag
      rw [hmove] at hrest ⊢
      rw [hadded, List.append_assoc, List.append_assoc, joined_literalRun_append,
        joined_literalRun_append, joinFront_empty]
      exact congrArg (fun more => joinFront s.pending (Event.tag name :: more))
        (hrest.trans (joinFront_empty _))

theorem intake_append (s : Scanner) (cs ds : List Char) :
    s.mode.intake options (cs ++ ds) =
      s.mode.intake options cs ++ (s.moves options cs).2.mode.intake options ds := by
  induction cs generalizing s with
  | nil => rfl
  | cons c cs ih =>
    have hmode := (move_turn options s c).1
    simp only [List.cons_append, ScanMode.intake, moves, ← hmode, ih, List.append_assoc]

/-- The sink hears the events of the characters that were pushed. -/
theorem pushAll_hears {offer : Offer ε σ} (haccept : ∀ event sink, (offer event sink).1 = .ok ())
    (options : ScanOptions) (s : Scanner) (sink : σ) (cs : List Char) :
    s.pushAll options offer sink cs =
      ((s.moves options cs).2,
        (s.moves options cs).1.foldl (fun sink event => (offer event sink).2) sink) := by
  refine Prod.ext (pushAll_accepting haccept options s sink cs) ?_
  induction cs generalizing s sink with
  | nil => rfl
  | cons c cs ih =>
    have hoffered := (push_offers options offer s c sink).offered
    rw [offerAll_of_accepting haccept] at hoffered
    rw [pushAll, moves, ih, push_accepting haccept, (Prod.mk.inj hoffered).2]
    exact List.foldl_append.symm

/-- A push of a character that closes a tag: the pending text is offered, and the tag behind it. -/
theorem push_closed {options : ScanOptions} {offer : Offer ε σ}
    (haccept : ∀ event sink, (offer event sink).1 = .ok ()) {s : Scanner} {c : Char}
    {name : String} (h : s.move options c = (literalRun s.pending ++ [.tag name], {})) (sink : σ) :
    let flushed := s.flush offer sink
    flushed.scanner.pending = "" ∧
      flushed.sink = (literalRun s.pending).foldl (fun sink event => (offer event sink).2) sink ∧
      s.push options offer c sink = ⟨.ok (), {}, (offer (.tag name) flushed.sink).2⟩ := by
  intro flushed
  have hflush := flush_offers offer s sink
  have hpush := push_offers options offer s c sink
  have hflushed := hflush.offered
  have hpushed := hpush.offered
  rw [offerAll_of_accepting haccept] at hflushed hpushed
  rw [h] at hpush hpushed
  obtain ⟨hok, hsink⟩ := Prod.mk.inj hflushed
  obtain ⟨hok', hsink'⟩ := Prod.mk.inj hpushed
  rw [List.foldl_append, ← hsink] at hsink'
  refine ⟨congrArg Scanner.pending (hflush.left hok), hsink, ?_⟩
  have hstep (step : ScanStep ε σ) : step = ⟨step.outcome, step.scanner, step.sink⟩ := rfl
  rw [hstep (s.push options offer c sink), hok', hpush.left hok', hsink']
  rfl

end Scanner

/-- **Literal text is offered in batches, and as it was put in.** Into a sink that rejects nothing a
text is scanned so:

* No run is empty, and a run stands before another one only if it is full.
* A tag is offered by a push that has emptied the buffer: the sink has heard all events before it.
* With the runs between two tags joined, what is offered is what enters the buffer there, in order.
* What enters the buffer is what each push makes of it: the text that the push offers, and that it
  leaves pending, is the text that was pending with what the character adds behind it. -/
theorem literal_runs (options : ScanOptions) (offer : Offer ε σ)
    (haccept : ∀ event sink, (offer event sink).1 = .ok ()) (text : String) (sink : σ) :
    let heard (events : List Event) :=
      events.foldl (fun sink event => (offer event sink).2) sink
    let after (read : List Char) := ({} : Scanner).pushAll options offer sink read
    let events := eventsOf options text
    scanText options offer text sink = (.ok (), heard events) ∧
    Batched events ∧
    (∀ before name following, events = before ++ .tag name :: following →
      ∃ read c rest, text.toList = read ++ c :: rest ∧
        let flushed := (after read).1.flush offer (after read).2
        flushed.scanner.pending = "" ∧ flushed.sink = heard before ∧
          (after read).1.push options offer c (after read).2 =
            ⟨.ok (), {}, (offer (.tag name) flushed.sink).2⟩) ∧
    joined events = joined (ScanMode.literal.intake options text.toList) ∧
    ∀ read c rest, text.toList = read ++ c :: rest →
      let turn := (after read).1.mode.turn options c
      let offered := ((after read).1.move options c).1
      ScanMode.literal.intake options text.toList =
          ScanMode.literal.intake options read ++
            (literalRun turn.added ++ turn.tag.toList.map .tag ++ turn.mode.intake options rest) ∧
        (after (read ++ [c])).2 = offered.foldl (fun sink event => (offer event sink).2)
          (after read).2 ∧
        literalText offered ++ (after (read ++ [c])).1.pending =
          (after read).1.pending ++ turn.added := by
  intro heard after events
  have hafter (read : List Char) : after read =
      ((({} : Scanner).moves options read).2, heard (({} : Scanner).moves options read).1) :=
    Scanner.pushAll_hears haccept options {} sink read
  refine ⟨(scanText_reads options offer haccept text sink).1,
    (Scanner.batchedSoFar_moves options {} text.toList).literalRun _, ?_, ?_, ?_⟩
  · intro before name following hevents
    obtain ⟨read, c, rest, hread, hbefore, hmove⟩ := Scanner.said_tag hevents
    refine ⟨read, c, rest, hread, ?_⟩
    rw [hafter]
    obtain ⟨hempty, hsink, hpush⟩ := Scanner.push_closed haccept hmove
      (heard (({} : Scanner).moves options read).1)
    refine ⟨hempty, ?_, hpush⟩
    rw [hsink, hbefore]
    exact List.foldl_append.symm
  · exact (Scanner.joined_said_intake options {} text.toList).trans (joinFront_empty _)
  · intro read c rest hread turn offered
    have hturn := Scanner.move_turn options (after read).1 c
    refine ⟨?_, ?_, ?_⟩
    · have hintake := Scanner.intake_append options {} read (c :: rest)
      have hscanner : (after read).1 = (({} : Scanner).moves options read).2 :=
        congrArg Prod.fst (hafter read)
      rw [← hscanner] at hintake
      rw [hread]
      exact hintake
    · simp only [hafter, Scanner.moves_concat, offered]
      exact List.foldl_append
    · have hnext : (after (read ++ [c])).1 = ((after read).1.move options c).2 := by
        rw [hafter, hafter, Scanner.moves_concat]
      rw [hnext]
      exact hturn.2.1

/-- A doubled delimiter, a rooted tag and an abandoned one between tags. -/
theorem literal_runs_mixed :
    let text := "a@@b@x@@~/c@d@yz e@w@"
    let events : List Event := [.literal "a@b", .tag "x", .literal "/cd@yz e", .tag "w"]
    (∀ event sink, (taking event sink).1 = .ok ()) ∧
      scanText {} taking text [] = (.ok (), events) ∧ Batched events ∧
      joined (ScanMode.literal.intake {} text.toList) = events ∧
      ∃ read c rest, text.toList = read ++ c :: rest ∧
        let now := ({} : Scanner).pushAll {} taking [] read
        let flushed := now.1.flush taking now.2
        flushed.scanner.pending = "" ∧
          flushed.sink = [.literal "a@b", .tag "x", .literal "/cd@yz e"] ∧
          now.1.push {} taking c now.2 = ⟨.ok (), {}, events⟩ := by
  intro text events
  have haccept : ∀ event sink, (taking event sink).1 = .ok () := fun _ _ => rfl
  have hevents : eventsOf {} text = events := by decide +kernel
  obtain ⟨hscan, hbatched, htags, hintake, -⟩ := literal_runs {} taking haccept text []
  rw [hevents] at hscan hbatched hintake
  obtain ⟨read, c, rest, hread, hempty, hsink, hpush⟩ :=
    htags [.literal "a@b", .tag "x", .literal "/cd@yz e"] "w" [] hevents
  refine ⟨haccept, hscan, hbatched, hintake.symm, read, c, rest, hread, hempty, hsink, ?_⟩
  rw [hpush, hsink]
  rfl

end Folio
