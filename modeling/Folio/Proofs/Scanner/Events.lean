import Folio.Scanner.ByteStream
import Mathlib.Data.List.Basic

/-!
# The events of a scan

What a scanner says does not depend on its sink. The sink decides only how much of it is heard: the
events are offered in order, and the first rejection ends the scan.

* `taking`: the sink that rejects nothing and takes every event down.
* `offerAll`: offer events one after the other, until one is rejected.
* `Scanner.move`, `Scanner.moves`: the events of one character and of several.
* `Scanner.said`, **`eventsOf`**: all events of a text; `Scanner.saidOf`: of characters that may
  fail.
* `Scanner.push_offers`: one character offers its events.
* **`scan_eq_offerAll`**: a scan offers its events in this way, and ends as its characters end;
  `transcript_eq`: all that it says.
-/

namespace Folio

variable {ε σ : Type}

/-- The sink that rejects nothing and takes every event down. -/
def taking : Offer Empty (List Event) := fun event taken => (.ok (), taken ++ [event])

/-- A text as an event, if there is any text. -/
def literalRun (text : String) : List Event :=
  if text.isEmpty then [] else [.literal text]

/-- Offer events one after the other, until one is rejected. -/
def offerAll (offer : Offer ε σ) : List Event → σ → Except ε Unit × σ
  | [], sink => (.ok (), sink)
  | event :: events, sink =>
    match offer event sink with
    | (.ok (), sink) => offerAll offer events sink
    | (.error e, sink) => (.error e, sink)

namespace Scanner

/-- The events of one character, and the scanner after it. -/
def move (options : ScanOptions) (s : Scanner) (c : Char) : List Event × Scanner :=
  let step := s.push options taking c []
  (step.sink, step.scanner)

/-- The events of characters one after the other, and the scanner after them. -/
def moves (options : ScanOptions) (s : Scanner) : List Char → List Event × Scanner
  | [] => ([], s)
  | c :: rest =>
    let (events, s) := s.move options c
    let (more, s) := s.moves options rest
    (events ++ more, s)

/-- **All that is still to be said** of a text: the events of its characters and of its end. -/
def said (options : ScanOptions) (s : Scanner) (cs : List Char) : List Event :=
  (s.moves options cs).1 ++ literalRun (s.moves options cs).2.pending

end Scanner

/-- **The events of a text.** -/
def eventsOf (options : ScanOptions) (text : String) : List Event :=
  ({} : Scanner).said options text.toList

/-! ## Characters that may fail -/

/-- The characters before the first error. -/
def readable : List (Except ε Char) → List Char
  | .ok c :: rest => c :: readable rest
  | _ => []

/-- How characters end: with the first error among them, if there is one. -/
def ending : List (Except ε Char) → Except ε Unit
  | [] => .ok ()
  | .ok _ :: rest => ending rest
  | .error e :: _ => .error e

/-- **The events of characters that may fail**: after an error, the end is not announced. -/
def Scanner.saidOf (options : ScanOptions) (s : Scanner) (chars : List (Except ε Char)) :
    List Event :=
  match ending chars with
  | .ok () => s.said options (readable chars)
  | .error _ => (s.moves options (readable chars)).1

@[simp] theorem readable_map_ok (cs : List Char) :
    readable (cs.map (.ok : Char → Except ε Char)) = cs := by
  induction cs with
  | nil => rfl
  | cons c cs ih => rw [List.map_cons, readable, ih]

@[simp] theorem ending_map_ok (cs : List Char) :
    ending (cs.map (.ok : Char → Except ε Char)) = .ok () := by
  induction cs with
  | nil => rfl
  | cons c cs ih => exact ih

theorem saidOf_text (options : ScanOptions) (text : String) :
    ({} : Scanner).saidOf options (text.toList.map (.ok : Char → Except ε Char)) =
      eventsOf options text := by
  simp only [Scanner.saidOf, ending_map_ok, readable_map_ok, eventsOf]

/-- What becomes of the errors does not show before the end. -/
theorem readable_map_mapError {ε' : Type} (f : ε → ε') (chars : List (Except ε Char)) :
    readable (chars.map (Except.mapError f)) = readable chars ∧
      ending (chars.map (Except.mapError f)) = (ending chars).mapError f := by
  induction chars with
  | nil => exact ⟨rfl, rfl⟩
  | cons c chars ih =>
    cases c with
    | ok c => exact ⟨congrArg (c :: ·) ih.1, ih.2⟩
    | error e => exact ⟨rfl, rfl⟩

theorem saidOf_map_mapError {ε' : Type} (f : ε → ε') (options : ScanOptions) (s : Scanner)
    (chars : List (Except ε Char)) :
    s.saidOf options (chars.map (Except.mapError f)) = s.saidOf options chars := by
  obtain ⟨hreadable, hending⟩ := readable_map_mapError f chars
  rw [Scanner.saidOf, Scanner.saidOf, hreadable, hending]
  cases ending chars <;> rfl

/-! ## Offering events -/

theorem offerAll_append (offer : Offer ε σ) (first second : List Event) (sink : σ) :
    offerAll offer (first ++ second) sink =
      match offerAll offer first sink with
      | (.ok (), sink) => offerAll offer second sink
      | (.error e, sink) => (.error e, sink) := by
  induction first generalizing sink with
  | nil => rfl
  | cons event first ih =>
    simp only [List.cons_append, offerAll]
    cases h : offer event sink with
    | mk outcome sink' =>
      cases outcome with
      | ok _ => exact ih sink'
      | error e => rfl

/-- A sink that rejects nothing hears everything. -/
theorem offerAll_of_accepting {offer : Offer ε σ} (h : ∀ event sink, (offer event sink).1 = .ok ())
    (events : List Event) (sink : σ) :
    offerAll offer events sink =
      (.ok (), events.foldl (fun sink event => (offer event sink).2) sink) := by
  induction events generalizing sink with
  | nil => rfl
  | cons event events ih =>
    have hok : offer event sink = (.ok (), (offer event sink).2) := Prod.ext (h event sink) rfl
    rw [offerAll, hok]
    exact ih _

/-! ## Steps offer their events -/

/-- The step offers the events; unless one of them is rejected, it leaves the scanner `next`. -/
structure ScanStep.Offers (step : ScanStep ε σ) (offer : Offer ε σ) (sink : σ)
    (events : List Event) (next : Scanner) : Prop where
  offered : (step.outcome, step.sink) = offerAll offer events sink
  left : step.outcome = .ok () → step.scanner = next

namespace Scanner

variable (options : ScanOptions) (offer : Offer ε σ) (s : Scanner)

theorem flush_taking :
    s.flush taking [] = ⟨.ok (), { s with pending := "" }, literalRun s.pending⟩ := by
  unfold flush literalRun
  split
  · next h => rw [← String.isEmpty_iff.mp h]
  · rfl

theorem flush_offers (sink : σ) :
    (s.flush offer sink).Offers offer sink (literalRun s.pending) { s with pending := "" } := by
  unfold flush literalRun
  split
  · next h => exact ⟨rfl, fun _ => by rw [← String.isEmpty_iff.mp h]⟩
  · cases h : offer (.literal s.pending) sink with
    | mk outcome sink' =>
      cases outcome with
      | ok _ => exact ⟨by simp [offerAll, h], fun _ => rfl⟩
      | error e => exact ⟨by simp [offerAll, h], by simp⟩

theorem pushPlain_offers (c : Char) (sink : σ) :
    (s.pushPlain offer c sink).Offers offer sink (s.pushPlain taking c []).sink
      (s.pushPlain taking c []).scanner := by
  unfold pushPlain
  dsimp only
  split
  · rw [flush_taking]
    exact flush_offers offer _ sink
  · exact ⟨rfl, fun _ => rfl⟩

theorem close_taking (raw : String) : s.close options taking raw [] =
    match options.rootedPath? (trim raw) with
    | some path => ⟨.ok (), { mode := .literal, pending := s.pending ++ path }, []⟩
    | none => ⟨.ok (), {}, literalRun s.pending ++ [.tag (trim raw)]⟩ := by
  unfold close
  dsimp only
  rw [flush_taking]
  rfl

theorem close_offers (raw : String) (sink : σ) :
    (s.close options offer raw sink).Offers offer sink (s.close options taking raw []).sink
      (s.close options taking raw []).scanner := by
  rw [close_taking]
  unfold close
  cases options.rootedPath? (trim raw) with
  | some path => exact ⟨rfl, fun _ => rfl⟩
  | none =>
    have hflush := flush_offers offer { s with mode := .literal } sink
    have hall := offerAll_append offer (literalRun s.pending) [.tag (trim raw)] sink
    dsimp only
    cases h : { s with mode := .literal }.flush offer sink with
    | mk outcome scanner sink' =>
      rw [h] at hflush
      rw [← hflush.offered] at hall
      cases outcome with
      | ok _ =>
        refine ⟨?_, fun _ => hflush.left rfl⟩
        rw [hall]
        simp only [offerAll]
        cases offer (.tag (trim raw)) sink' with
        | mk outcome sink => cases outcome <;> rfl
      | error e => exact ⟨hall.symm, by simp⟩

theorem push_offers (c : Char) (sink : σ) :
    (s.push options offer c sink).Offers offer sink (s.move options c).1 (s.move options c).2 := by
  unfold move push
  split
  · exact ⟨rfl, fun _ => rfl⟩
  · cases s.mode with
    | literal =>
      dsimp only
      split
      · exact ⟨rfl, fun _ => rfl⟩
      · exact pushPlain_offers offer s c sink
    | tag raw =>
      dsimp only
      split
      · split
        · exact ⟨rfl, fun _ => rfl⟩
        · exact close_offers options offer s raw sink
      · split
        · exact pushPlain_offers offer _ c sink
        · exact ⟨rfl, fun _ => rfl⟩

theorem said_cons (c : Char) (cs : List Char) :
    s.said options (c :: cs) = (s.move options c).1 ++ (s.move options c).2.said options cs := by
  simp only [said, moves, List.append_assoc]

theorem saidOf_nil : s.saidOf options ([] : List (Except ε Char)) = literalRun s.pending := rfl

theorem saidOf_cons (c : Char) (chars : List (Except ε Char)) :
    s.saidOf options (.ok c :: chars) =
      (s.move options c).1 ++ (s.move options c).2.saidOf options chars := by
  unfold saidOf
  rw [ending, readable]
  cases ending chars with
  | ok _ => exact said_cons options s c (readable chars)
  | error e => rfl

/-- A run offers what the scanner says, and ends as its characters end. -/
theorem run_eq_offerAll (chars : List (Except ε Char)) (sink : σ) :
    s.run options offer chars sink =
      match offerAll offer (s.saidOf options chars) sink with
      | (.ok (), sink) => (ending chars, sink)
      | (.error e, sink) => (.error e, sink) := by
  induction chars generalizing s sink with
  | nil =>
    have hflush := flush_offers offer { s with mode := .literal } sink
    rw [run, saidOf_nil, ← hflush.offered, finish]
    cases h : ({ s with mode := .literal }.flush offer sink).outcome <;> rfl
  | cons item rest ih =>
    cases item with
    | error e => rfl
    | ok c =>
      have hpush := push_offers options offer s c sink
      rw [run, saidOf_cons, offerAll_append, ← hpush.offered]
      cases h : s.push options offer c sink with
      | mk outcome scanner sink' =>
        rw [h] at hpush
        cases outcome with
        | ok _ =>
          have hleft : scanner = (s.move options c).2 := hpush.left rfl
          subst hleft
          exact ih _ sink'
        | error e => rfl

end Scanner

/-- **A scan offers the events of its characters in order until one is rejected.** -/
theorem scan_eq_offerAll (options : ScanOptions) (offer : Offer ε σ)
    (chars : List (Except ε Char)) (sink : σ) :
    scan options offer chars sink =
      match offerAll offer (({} : Scanner).saidOf options chars) sink with
      | (.ok (), sink) => (ending chars, sink)
      | (.error e, sink) => (.error e, sink) :=
  Scanner.run_eq_offerAll options offer {} chars sink

/-- All that a scan says are the events of its characters. -/
theorem transcript_eq (options : ScanOptions) (chars : List (Except ε Char)) :
    transcript options chars = (ending chars, ({} : Scanner).saidOf options chars) := by
  rw [transcript, scan_eq_offerAll, offerAll_of_accepting fun _ _ => rfl,
    List.foldl_append_eq_append, ← List.flatMap_def, List.flatMap_singleton', List.nil_append]

end Folio
