import Folio.Proofs.Scanner.Rejection
import Folio.Proofs.Scanner.Rooted
import Folio.Proofs.Text.Utf8

/-!
# How much text is held back

The scanner looks at the size of its buffer when it takes in a plain character, also the one that
abandons a tag, and offers the text once it reaches the limit. A doubled delimiter and a rooted tag
write into the buffer without that look. So what is pending is less text than the limit, with what
such constructs have written since behind it, and there is no limit to that.

* `Scanner.pushAll_accepting`: pushing into a sink that rejects nothing.
* **`ScanOptions.Unchecked`**: doubled delimiters and rooted tags in a row, and what they write.
* `Scanner.Buffered`: what is pending after some characters; `Scanner.Buffered.move` one more.
* **`pending_bounded`**: so it is after every text.
* `moves_doubled`: doubled delimiters alone are never offered before the end.
* **`pending_overflows`**: they bring the buffer to the limit.
-/

namespace Folio

variable {ε σ : Type}

/-! ## Sinks that reject nothing -/

namespace Scanner

variable {offer : Offer ε σ} (haccept : ∀ event sink, (offer event sink).1 = .ok ())

include haccept

theorem push_accepting (options : ScanOptions) (s : Scanner) (c : Char) (sink : σ) :
    (s.push options offer c sink).scanner = (s.move options c).2 := by
  have hpush := push_offers options offer s c sink
  apply hpush.left
  have hoffered := hpush.offered
  rw [offerAll_of_accepting haccept] at hoffered
  exact congrArg Prod.fst hoffered

/-- **Pushing into a sink that rejects nothing** moves the scanner along the characters. -/
theorem pushAll_accepting (options : ScanOptions) (s : Scanner) (sink : σ) (cs : List Char) :
    (s.pushAll options offer sink cs).1 = (s.moves options cs).2 := by
  induction cs generalizing s sink with
  | nil => rfl
  | cons c cs ih =>
    rw [pushAll, moves]
    dsimp only
    rw [ih, push_accepting haccept]

end Scanner

/-! ## What is written without a look at the size -/

/-- **Doubled delimiters and rooted tags in a row**, with the text that they write. -/
inductive ScanOptions.Unchecked (options : ScanOptions) : List Char → String → Prop
  | nothing : Unchecked options [] ""
  | doubled {run : List Char} {written : String} (h : Unchecked options run written) :
    Unchecked options (run ++ [options.delimiter, options.delimiter])
      (written.push options.delimiter)
  | rooted {run raw : List Char} {written path : String} (h : Unchecked options run written)
    (hraw : options.InTag raw) (hne : raw ≠ [])
    (hname : trim (String.ofList raw) = options.rootedPrefix ++ path) :
    Unchecked options (run ++ options.delimiter :: (raw ++ [options.delimiter]))
      (written ++ (options.appRoot ++ path))

/-- Where no such construct stands, nothing is written. -/
theorem ScanOptions.Unchecked.written_eq_empty {options : ScanOptions} {run : List Char}
    {written : String} (h : options.Unchecked run written) (hnone : run = []) : written = "" := by
  cases h with
  | nothing => rfl
  | doubled h => simp at hnone
  | rooted h hraw hne hname => simp at hnone

/-- The characters of a tag that is open, with its delimiter. -/
def ScanMode.opened (options : ScanOptions) : ScanMode → List Char
  | .literal => []
  | .tag raw => options.delimiter :: raw.toList

/-- **What is pending after the characters `read`**: less text than the limit, and behind it what
the last doubled delimiters and rooted tags have written. -/
inductive Scanner.Buffered (options : ScanOptions) (read : List Char) (s : Scanner) : Prop
  | intro (earlier run : List Char) (kept written : String)
    (hread : read = earlier ++ run ++ s.mode.opened options)
    (hopened : ∀ raw, s.mode = .tag raw → options.InTag raw.toList)
    (hrun : options.Unchecked run written) (hpending : s.pending = kept ++ written)
    (hkept : kept.utf8ByteSize < flushBytes)

namespace Scanner

variable {options : ScanOptions} {read : List Char} {s : Scanner}

/-- Text that has been looked at. -/
theorem buffered_of_lt {p : String} (h : p.utf8ByteSize < flushBytes) (read : List Char) :
    ({ pending := p } : Scanner).Buffered options read :=
  .intro read [] p "" (by simp [ScanMode.opened]) nofun .nothing String.append_empty.symm h

theorem buffered_start : ({} : Scanner).Buffered options [] :=
  buffered_of_lt (by decide) []

/-- **A plain character is followed by a look at the size.** -/
theorem buffered_pushPlain (s : Scanner) (c : Char) (read : List Char) :
    (s.pushPlain taking c []).scanner.Buffered options read := by
  unfold pushPlain
  dsimp only
  split
  · rw [flush_taking]
    exact buffered_of_lt (by decide) read
  · next hsize => exact buffered_of_lt (Nat.lt_of_not_ge hsize) read

/-- What a delimiter does outside a tag: it opens one. -/
theorem Buffered.opened {p : String} (h : ({ pending := p } : Scanner).Buffered options read) :
    ({ mode := .tag "", pending := p } : Scanner).Buffered options
      (read ++ [options.delimiter]) := by
  obtain ⟨earlier, run, kept, written, rfl, -, hrun, hpending, hkept⟩ := h
  refine .intro earlier run kept written ?_ ?_ hrun hpending hkept
  · simp [ScanMode.opened]
  · rintro raw ⟨⟩
    exact options.inTag_empty

/-- One more character of a tag. -/
theorem Buffered.inTag {raw p : String} {c : Char}
    (h : ({ mode := .tag raw, pending := p } : Scanner).Buffered options read)
    (hc : c ≠ options.delimiter ∧ c ≠ ' ' ∧ c ≠ '\r' ∧ c ≠ '\n') :
    ({ mode := .tag (raw.push c), pending := p } : Scanner).Buffered options (read ++ [c]) := by
  obtain ⟨earlier, run, kept, written, rfl, hopened, hrun, hpending, hkept⟩ := h
  refine .intro earlier run kept written ?_ ?_ hrun hpending hkept
  · simp [ScanMode.opened]
  · rintro _ ⟨⟩
    rw [String.toList_push]
    exact (hopened raw rfl).append (by simpa [ScanOptions.InTag] using hc)

/-- What a delimiter does in a tag: the tag closes, and if it is empty or rooted it writes text that
is not looked at. -/
theorem Buffered.closed {raw p : String}
    (h : ({ mode := .tag raw, pending := p } : Scanner).Buffered options read) :
    (({ mode := .tag raw, pending := p } : Scanner).move options.keeping
      options.delimiter).2.Buffered options (read ++ [options.delimiter]) := by
  obtain ⟨earlier, run, kept, written, rfl, hopened, hrun, hpending, hkept⟩ := h
  obtain rfl : p = kept ++ written := hpending
  by_cases hempty : raw = ""
  · subst hempty
    rw [move_doubled]
    refine .intro earlier _ kept _ ?_ nofun hrun.doubled ?_ hkept
    · simp [ScanMode.opened]
    · simp only [← String.append_singleton, String.append_assoc]
  · rw [move_close options _ hempty]
    cases hrooted : options.rootedPath? (trim raw) with
    | none => exact buffered_of_lt (by decide) _
    | some path =>
      obtain ⟨rest, hname, rfl⟩ := ScanOptions.rootedPath?_eq_some.mp hrooted
      have hraw : raw.toList ≠ [] := fun hnil => hempty (String.toList_eq_nil_iff.mp hnil)
      have hwritten := hrun.rooted (hopened raw rfl) hraw (by rwa [String.ofList_toList])
      refine .intro earlier _ kept _ ?_ nofun hwritten ?_ hkept
      · simp [ScanMode.opened]
      · exact String.append_assoc

/-- **One more character.** -/
theorem Buffered.move (h : s.Buffered options read) (c : Char) :
    (s.move options.keeping c).2.Buffered options (read ++ [c]) := by
  obtain ⟨mode, p⟩ := s
  cases mode with
  | literal =>
    by_cases hd : c = options.delimiter
    · subst hd
      rw [move_open]
      exact h.opened
    · rw [move_plain options p hd]
      exact buffered_pushPlain _ c _
  | tag raw =>
    by_cases hd : c = options.delimiter
    · subst hd
      exact h.closed
    by_cases hbreak : c = ' ' ∨ c = '\r' ∨ c = '\n'
    · rw [move_break options raw p ⟨hd, hbreak⟩]
      exact buffered_pushPlain _ c _
    · have hc : c ≠ options.delimiter ∧ c ≠ ' ' ∧ c ≠ '\r' ∧ c ≠ '\n' := by
        simpa [hd] using hbreak
      rw [move_inTag options raw p hc]
      exact h.inTag hc

/-- Characters one after the other; those that are dropped change nothing. -/
theorem buffered_moves (options : ScanOptions) (cs : List Char) :
    (({} : Scanner).moves options cs).2.Buffered options (options.visible cs) := by
  induction cs using List.reverseRecOn with
  | nil =>
    have hnone : options.visible [] = [] := by simp [ScanOptions.visible]
    rw [hnone]
    exact buffered_start
  | append_singleton cs c ih =>
    rw [moves_concat, ScanOptions.visible_append]
    dsimp only
    by_cases hdrop : options.stripLineBreaks = true ∧ isLineBreak c = true
    · have hnone : options.visible [c] = [] := by simp [ScanOptions.visible, hdrop]
      rw [hnone, List.append_nil, move_dropped options _ hdrop.1 hdrop.2]
      exact ih
    · have hkeep : (options.stripLineBreaks && isLineBreak c) = false := by simpa using hdrop
      have hseen : options.visible [c] = [c] := by
        unfold ScanOptions.visible
        split <;> simp_all
      rw [hseen, move_keeping options _ hkeep]
      exact ih.move c

end Scanner

/-- **What is pending is bounded but for doubled delimiters and rooted tags.** However a text is
made up, after each of its characters less than the limit is pending, with what the doubled
delimiters and the rooted tags at the end of the text have written behind it. If none stand there,
all that is pending is less than the limit. -/
theorem pending_bounded (options : ScanOptions) (offer : Offer ε σ)
    (haccept : ∀ event sink, (offer event sink).1 = .ok ()) (sink : σ) (text : String) :
    let s := (({} : Scanner).pushAll options offer sink text.toList).1
    ∃ earlier run kept written,
      options.visible text.toList = earlier ++ run ++ s.mode.opened options ∧
        options.Unchecked run written ∧ s.pending = kept ++ written ∧
        kept.utf8ByteSize < flushBytes ∧ (run = [] → s.pending.utf8ByteSize < flushBytes) := by
  intro s
  have hbuffered : s.Buffered options (options.visible text.toList) := by
    have hmoves := Scanner.pushAll_accepting haccept options {} sink text.toList
    rw [show s = _ from hmoves]
    exact Scanner.buffered_moves options text.toList
  obtain ⟨earlier, run, kept, written, hread, -, hrun, hpending, hkept⟩ := hbuffered
  refine ⟨earlier, run, kept, written, hread, hrun, hpending, hkept, fun hnone => ?_⟩
  rwa [hpending, hrun.written_eq_empty hnone, String.append_empty]

/-- Text between doubled delimiters and a rooted tag, and another tag that is open. -/
theorem pending_bounded_mixed :
    let s := (({} : Scanner).pushAll {} taking [] "@x@a@@b@@@~/c@@d".toList).1
    (∀ event sink, (taking event sink).1 = .ok ()) ∧
      s = { mode := .tag "d", pending := "a@b@/c" } ∧
      ∃ earlier run kept written,
        "@x@a@@b@@@~/c@@d".toList = earlier ++ run ++ "@d".toList ∧
          ScanOptions.Unchecked {} run written ∧ s.pending = kept ++ written ∧
          kept.utf8ByteSize < flushBytes := by
  intro s
  have haccept : ∀ event sink, (taking event sink).1 = .ok () := fun _ _ => rfl
  have hs : s = { mode := .tag "d", pending := "a@b@/c" } := by decide +kernel
  obtain ⟨earlier, run, kept, written, hread, hrun, hpending, hkept, -⟩ :=
    pending_bounded {} taking haccept [] "@x@a@@b@@@~/c@@d"
  refine ⟨haccept, hs, earlier, run, kept, written, ?_, hrun, hpending, hkept⟩
  rw [show (({} : Scanner).pushAll {} taking [] "@x@a@@b@@@~/c@@d".toList).1 = _ from hs] at hread
  exact hread

/-! ## Doubled delimiters -/

/-- **Doubled delimiters are never offered** before the text ends. -/
theorem moves_doubled (options : ScanOptions) (p : String) (n : Nat) :
    (({ pending := p } : Scanner).moves options.keeping
      (List.replicate (2 * n) options.delimiter)).2 =
      { pending := p ++ String.ofList (List.replicate n options.delimiter) } := by
  induction n generalizing p with
  | zero => simp [Scanner.moves]
  | succ n ih =>
    have htwo : List.replicate (2 * (n + 1)) options.delimiter =
        options.delimiter :: options.delimiter :: List.replicate (2 * n) options.delimiter := rfl
    rw [htwo, Scanner.moves, Scanner.move_open]
    dsimp only
    rw [Scanner.moves, Scanner.move_doubled]
    dsimp only
    rw [ih, List.replicate_succ, String.ofList_cons, ← String.append_singleton,
      String.append_assoc]

theorem utf8ByteSize_replicate (n : Nat) (c : Char) :
    (String.ofList (List.replicate n c)).utf8ByteSize = n * c.utf8Size := by
  induction n with
  | zero => simp
  | succ n ih =>
    rw [List.replicate_succ, Utf8.utf8ByteSize_ofList_cons, ih, Nat.succ_mul, Nat.add_comm]

/-- **Doubled delimiters bring the buffer to the limit**: as many as the limit has bytes are all
pending. -/
theorem pending_overflows :
    let text := String.ofList (List.replicate 16384 '@')
    let s := (({} : Scanner).pushAll {} taking [] text.toList).1
    s.pending = String.ofList (List.replicate 8192 '@') ∧
      ¬ s.pending.utf8ByteSize < flushBytes := by
  intro text s
  have haccept : ∀ event sink, (taking event sink).1 = .ok () := fun _ _ => rfl
  have hs : s = { pending := "" ++ String.ofList (List.replicate 8192 '@') } := by
    have hmoves := Scanner.pushAll_accepting haccept {} {} [] text.toList
    rw [show s = _ from hmoves, String.toList_ofList]
    exact moves_doubled {} "" 8192
  have hpending : s.pending = String.ofList (List.replicate 8192 '@') := by
    rw [hs, String.empty_append]
  refine ⟨hpending, ?_⟩
  rw [hpending, utf8ByteSize_replicate]
  decide

end Folio
