import Folio.Proofs.Scanner.Events
import Folio.Proofs.Text.Utf8

/-!
# Scanning a stream is scanning its text

Bytes come in chunks of any size, with interruptions between them, and may break off. What is
scanned is the text that they encode, without its byte order mark. Where they encode no text, the
characters before that place are scanned, and the scan ends there with an error.

* `deliveredBytes`, `deliveredFault`: the bytes of a stream, and the fault that ends them.
* `stopError`: why a stream stops where no character can be decoded.
* `takeChar_of_head`, `takeChar_of_stop`: a character is taken where one can be decoded.
* **`charsOf_eq`**: the characters of a stream; `charsOf_ofBytes`: of a stream of bytes alone.
* `Source`: chunks read through a buffer; `Source.takeByte_signals`: the chunks do not show.
* **`scanStream_source`**: a stream is scanned like its text.
-/

namespace Folio

/-- The bytes of a stream up to the first fault. -/
def deliveredBytes : List Signal → List UInt8
  | [] => []
  | .byte b :: rest => b :: deliveredBytes rest
  | .interrupted :: rest => deliveredBytes rest
  | .fault _ :: _ => []

/-- The first fault of a stream. -/
def deliveredFault : List Signal → Option ReadError
  | [] => none
  | .byte _ :: rest => deliveredFault rest
  | .interrupted :: rest => deliveredFault rest
  | .fault e :: _ => some e

theorem deliveredBytes_append (bytes : List UInt8) (signals : List Signal) :
    deliveredBytes (Signal.ofBytes bytes ++ signals) = bytes ++ deliveredBytes signals := by
  induction bytes with
  | nil => rfl
  | cons b bytes ih => exact congrArg (b :: ·) ih

theorem deliveredFault_append (bytes : List UInt8) (signals : List Signal) :
    deliveredFault (Signal.ofBytes bytes ++ signals) = deliveredFault signals := by
  induction bytes with
  | nil => rfl
  | cons b bytes ih => exact ih

/-- Why no character can be decoded from the bytes that are left: they are malformed, if all of the
sequence is there that the first of them begins; else the stream broke off in it. -/
def stopError (bytes : List UInt8) (fault : Option ReadError) : ReadError :=
  match bytes.head?.map Utf8.width? with
  | some none => .malformedCharacter
  | some (some width) =>
    if width ≤ bytes.length then .malformedCharacter else fault.getD .malformedCharacter
  | none => fault.getD .malformedCharacter

section Characters

variable {signals : List Signal}

/-! ## Bytes -/

theorem takeByte_of_cons {b : UInt8} {more : List UInt8} (h : deliveredBytes signals = b :: more) :
    ∃ rest, takeByte signals = (.ok (some b), rest) ∧ deliveredBytes rest = more ∧
      deliveredFault rest = deliveredFault signals := by
  induction signals with
  | nil => cases h
  | cons signal signals ih =>
    cases signal with
    | byte a =>
      obtain ⟨rfl, rfl⟩ := List.cons.inj h
      exact ⟨signals, rfl, rfl, rfl⟩
    | interrupted => exact ih h
    | fault e => cases h

theorem takeByte_of_nil (h : deliveredBytes signals = []) :
    (takeByte signals).1 = (deliveredFault signals).elim (.ok none) .error := by
  induction signals with
  | nil => rfl
  | cons signal signals ih =>
    cases signal with
    | byte a => cases h
    | interrupted => exact ih h
    | fault e => rfl

theorem takeBytes_of_le {n : Nat} (h : n ≤ (deliveredBytes signals).length) :
    ∃ rest, takeBytes n signals = (.ok ((deliveredBytes signals).take n), rest) ∧
      deliveredBytes rest = (deliveredBytes signals).drop n ∧
      deliveredFault rest = deliveredFault signals := by
  induction n generalizing signals with
  | zero => exact ⟨signals, rfl, rfl, rfl⟩
  | succ n ih =>
    cases hbytes : deliveredBytes signals with
    | nil => simp [hbytes] at h
    | cons b more =>
      obtain ⟨after, htake, hmore, hfault⟩ := takeByte_of_cons hbytes
      have hle : n ≤ (deliveredBytes after).length := by simp_all
      obtain ⟨rest, htakes, hrest, hfault'⟩ := ih hle
      refine ⟨rest, ?_, ?_, hfault'.trans hfault⟩
      · rw [takeBytes, htake]
        dsimp only
        rw [htakes, hmore, List.take_succ_cons]
      · rw [hrest, hmore, List.drop_succ_cons]

theorem takeBytes_of_lt {n : Nat} (h : (deliveredBytes signals).length < n) :
    (takeBytes n signals).1 = .error ((deliveredFault signals).getD .malformedCharacter) := by
  induction n generalizing signals with
  | zero => exact absurd h (Nat.not_lt_zero _)
  | succ n ih =>
    rw [takeBytes]
    cases hbytes : deliveredBytes signals with
    | nil =>
      have htake := takeByte_of_nil hbytes
      cases h : takeByte signals with
      | mk outcome rest =>
        obtain rfl : outcome = _ := (congrArg Prod.fst h).symm.trans htake
        cases deliveredFault signals <;> rfl
    | cons b more =>
      obtain ⟨after, htake, hmore, hfault⟩ := takeByte_of_cons hbytes
      have hlt : (deliveredBytes after).length < n := by simp_all
      rw [htake, ← hfault]
      dsimp only
      cases h : takeBytes n after with
      | mk outcome rest =>
        obtain rfl : outcome = _ := (congrArg Prod.fst h).symm.trans (ih hlt)
        rfl

/-! ## Characters -/

theorem takeChar_of_head {c : Char} {w : Nat}
    (h : Utf8.head? (deliveredBytes signals) = some (c, w)) :
    ∃ rest, takeChar signals = (.ok (some c), rest) ∧
      deliveredBytes rest = (deliveredBytes signals).drop w ∧
      deliveredFault rest = deliveredFault signals := by
  obtain ⟨rfl, tail, htail⟩ := Utf8.head?_eq_some_iff.mp h
  cases hencode : String.utf8EncodeChar c with
  | nil => exact absurd hencode String.utf8EncodeChar_ne_nil
  | cons b more =>
    rw [hencode, List.cons_append] at htail
    obtain ⟨after, htake, hmore, hfault⟩ := takeByte_of_cons htail
    have hle : more.length ≤ (deliveredBytes after).length := by simp [hmore]
    obtain ⟨rest, htakes, hrest, hfault'⟩ := takeBytes_of_le hle
    refine ⟨rest, ?_, ?_, hfault'.trans hfault⟩
    · rw [takeChar, htake]
      dsimp only
      rw [Utf8.width?_of_utf8EncodeChar hencode]
      dsimp only
      rw [Nat.add_sub_cancel, htakes, hmore, List.take_left]
      dsimp only
      rw [← hencode, Utf8.char?_utf8EncodeChar]
    · rw [hrest, hmore, htail, List.length_cons, List.drop_succ_cons]

theorem takeChar_of_stop (h : Utf8.head? (deliveredBytes signals) = none) :
    (takeChar signals).1 =
      if deliveredBytes signals = [] ∧ deliveredFault signals = none then .ok none
      else .error (stopError (deliveredBytes signals) (deliveredFault signals)) := by
  rw [takeChar]
  cases hbytes : deliveredBytes signals with
  | nil =>
    have htake := takeByte_of_nil hbytes
    cases hpair : takeByte signals with
    | mk outcome rest =>
      obtain rfl : outcome = _ := (congrArg Prod.fst hpair).symm.trans htake
      cases deliveredFault signals <;> rfl
  | cons b more =>
    obtain ⟨after, htake, hmore, hfault⟩ := takeByte_of_cons hbytes
    rw [if_neg (by simp), htake]
    dsimp only
    rw [hbytes, Utf8.head?] at h
    unfold stopError
    simp only [List.head?_cons, Option.map_some]
    cases hwidth : Utf8.width? b with
    | none => rfl
    | some width =>
      rw [hwidth] at h
      dsimp only at h ⊢
      rw [List.length_cons]
      by_cases hle : width ≤ more.length + 1
      · -- All bytes of the sequence are there, so it is their values that are wrong.
        have hwhole : width - 1 ≤ (deliveredBytes after).length := by rw [hmore]; omega
        obtain ⟨rest, htakes, -, -⟩ := takeBytes_of_le hwhole
        rw [if_pos hle, htakes, hmore]
        dsimp only
        rw [Option.map_eq_none_iff.mp h]
      · have hshort : (deliveredBytes after).length < width - 1 := by rw [hmore]; omega
        have htakes := takeBytes_of_lt hshort
        rw [if_neg hle]
        cases hpair : takeBytes (width - 1) after with
        | mk outcome rest =>
          obtain rfl : outcome = _ := (congrArg Prod.fst hpair).symm.trans htakes
          rw [hfault]

end Characters

/-! ## Streams of characters -/

/-- Characters without a byte order mark at their beginning. -/
def afterMark : List Char → List Char
  | [] => []
  | c :: rest => if c = byteOrderMark then rest else c :: rest

/-- A text without a byte order mark at its beginning. -/
def withoutMark (text : String) : String :=
  String.ofList (afterMark text.toList)

/-- How a stream ends after its characters: with an error, unless nothing is left of it. -/
def streamEnd (signals : List Signal) : List (Except ReadError Char) :=
  let rest := (Utf8.decodePrefix (deliveredBytes signals)).2
  if rest = [] ∧ deliveredFault signals = none then []
  else [.error (stopError rest (deliveredFault signals))]

namespace CharStream

theorem toList_eq (stream : CharStream) :
    stream.toList =
      match stream.next with
      | (none, _) => []
      | (some (.error e), _) => [.error e]
      | (some (.ok c), stream') => .ok c :: stream'.toList := by
  unfold toList
  rw [drain]
  split <;> next h => rw [h]

/-- Where no character can be decoded, a stream ends. -/
theorem toList_of_stop {stream : CharStream} (hdone : stream.done = false)
    (h : Utf8.head? (deliveredBytes stream.signals) = none) :
    stream.toList = streamEnd stream.signals := by
  have htake := takeChar_of_stop h
  rw [toList_eq, next, if_neg (by simp [hdone]), nextPlain, streamEnd,
    Utf8.decodePrefix_of_head?_none h]
  cases hpair : takeChar stream.signals with
  | mk outcome rest =>
    rw [hpair] at htake
    dsimp only at htake ⊢
    by_cases hend : deliveredBytes stream.signals = [] ∧ deliveredFault stream.signals = none
    · rw [if_pos hend] at htake ⊢
      rw [htake]
    · rw [if_neg hend] at htake ⊢
      rw [htake]

/-- After the first character, a stream yields what can be decoded. -/
theorem toList_started (signals : List Signal) :
    toList { signals := signals, started := true } =
      (Utf8.decodePrefix (deliveredBytes signals)).1.map .ok ++ streamEnd signals := by
  induction hlength : signals.length using Nat.strongRecOn generalizing signals with
  | ind n ih =>
    subst hlength
    cases hhead : Utf8.head? (deliveredBytes signals) with
    | none =>
      rw [toList_of_stop rfl hhead, Utf8.decodePrefix_of_head?_none hhead]
      rfl
    | some found =>
      obtain ⟨c, w⟩ := found
      obtain ⟨rest, htake, hrest, hfault⟩ := takeChar_of_head hhead
      obtain ⟨rfl, tail, htail⟩ := Utf8.head?_eq_some_iff.mp hhead
      rw [htail, List.drop_left] at hrest
      have hnext : ({ signals := signals, started := true } : CharStream).next =
          (some (.ok c), { signals := rest, started := true }) := by
        simp [next, nextPlain, htake]
      have hend : streamEnd signals = streamEnd rest := by
        simp only [streamEnd, htail, Utf8.decodePrefix_utf8EncodeChar_append, hrest, hfault]
      rw [toList_eq, hnext, hend, htail, Utf8.decodePrefix_utf8EncodeChar_append]
      dsimp only
      rw [ih _ (takeChar_length_lt htake) rest rfl, hrest, List.map_cons, List.cons_append]

end CharStream

/-- **The characters of a stream**: what can be decoded of its bytes, without a byte order mark,
then an error if anything is left. -/
theorem charsOf_eq (signals : List Signal) :
    charsOf signals =
      (afterMark (Utf8.decodePrefix (deliveredBytes signals)).1).map .ok ++ streamEnd signals := by
  unfold charsOf
  cases hhead : Utf8.head? (deliveredBytes signals) with
  | none =>
    rw [CharStream.toList_of_stop rfl hhead, Utf8.decodePrefix_of_head?_none hhead]
    rfl
  | some found =>
    obtain ⟨c, w⟩ := found
    obtain ⟨rest, htake, hrest, hfault⟩ := takeChar_of_head hhead
    obtain ⟨rfl, tail, htail⟩ := Utf8.head?_eq_some_iff.mp hhead
    rw [htail, List.drop_left] at hrest
    have hplain : ({ signals := signals } : CharStream).nextPlain =
        (some (.ok c), { signals := rest, started := true }) := by
      rw [CharStream.nextPlain, htake]
    have hend : streamEnd signals = streamEnd rest := by
      simp only [streamEnd, htail, Utf8.decodePrefix_utf8EncodeChar_append, hrest, hfault]
    have hstarted := CharStream.toList_started rest
    rw [hend, htail, Utf8.decodePrefix_utf8EncodeChar_append, ← hrest]
    unfold afterMark
    dsimp only
    split
    · next hmark =>
      -- The mark is passed over: the stream goes on as the one after it would.
      have hnext : ({ signals := signals } : CharStream).next =
          ({ signals := rest, started := true } : CharStream).next := by
        simp only [CharStream.next, hplain, hmark, beq_self_eq_true, Bool.not_false, Bool.not_true,
          Bool.and_self, Bool.false_and, if_true, if_false, Bool.false_eq_true]
        split
        · next h => exact h
        · rfl
      rw [CharStream.toList_eq, hnext, ← CharStream.toList_eq, hstarted]
    · next hmark =>
      have hnext : ({ signals := signals } : CharStream).next =
          (some (.ok c), { signals := rest, started := true }) := by
        simp [CharStream.next, hplain, hmark]
      rw [CharStream.toList_eq, hnext]
      dsimp only
      rw [hstarted, List.map_cons, List.cons_append]

/-! ## Streams of bytes alone -/

theorem deliveredBytes_ofBytes (bytes : List UInt8) :
    deliveredBytes (Signal.ofBytes bytes) = bytes := by
  simpa [deliveredBytes] using deliveredBytes_append bytes []

theorem deliveredFault_ofBytes (bytes : List UInt8) :
    deliveredFault (Signal.ofBytes bytes) = none := by
  simpa [deliveredFault] using deliveredFault_append bytes []

theorem bytesOf_ofBytes (bytes : List UInt8) : bytesOf (Signal.ofBytes bytes) = .ok bytes := by
  induction bytes with
  | nil => rfl
  | cons b bytes ih => exact congrArg (Except.map (b :: ·)) ih

theorem stopError_none (rest : List UInt8) : stopError rest none = .malformedCharacter := by
  unfold stopError
  split
  · rfl
  · split <;> rfl
  · rfl

/-- **The characters of bytes**: what can be decoded of them, without a byte order mark, then an
error if anything is left. -/
theorem charsOf_ofBytes {bytes rest : List UInt8} {cs : List Char}
    (h : Utf8.decodePrefix bytes = (cs, rest)) :
    charsOf (Signal.ofBytes bytes) = (withoutMark (String.ofList cs)).toList.map .ok ++
      if rest = [] then [] else [.error .malformedCharacter] := by
  simp only [charsOf_eq, streamEnd, deliveredBytes_ofBytes, deliveredFault_ofBytes, h, withoutMark,
    String.toList_ofList, stopError_none, and_true]

/-- Bytes that are text have the characters of the text, without a byte order mark. -/
theorem charsOf_of_decode? {bytes : List UInt8} {text : String}
    (h : Utf8.decode? bytes = some text) :
    charsOf (Signal.ofBytes bytes) = (withoutMark text).toList.map .ok := by
  have hprefix : Utf8.decodePrefix bytes = (text.toList, []) := by
    refine Utf8.decodePrefix_eq_iff.mpr ⟨?_, rfl⟩
    rw [String.ofList_toList, List.append_nil]
    exact Utf8.decode?_eq_some_iff.mp h
  rw [charsOf_ofBytes hprefix, String.ofList_toList, if_pos rfl, List.append_nil]

/-! ## Chunks -/

/-- What a reader is given at a time. No bytes at all are the end of the stream. -/
inductive Delivery
  | chunk (bytes : List UInt8)
  | interrupted
  | fault (error : ReadError)
  deriving DecidableEq

/-- A reader that buffers what it is given. -/
structure Source where
  buffer : List UInt8
  deliveries : List Delivery

/-- The signals in deliveries. -/
def Delivery.signals : List Delivery → List Signal
  | [] => []
  | .chunk [] :: _ => []
  | .chunk (b :: bytes) :: rest => Signal.ofBytes (b :: bytes) ++ signals rest
  | .interrupted :: rest => .interrupted :: signals rest
  | .fault e :: rest => .fault e :: signals rest

namespace Source

/-- The signals of a reader, one byte at a time. -/
def signals (source : Source) : List Signal :=
  Signal.ofBytes source.buffer ++ Delivery.signals source.deliveries

/-- Fill an empty buffer, again after an interruption, and take its first byte. -/
def refill : List Delivery → Except ReadError (Option UInt8) × Source
  | [] => (.ok none, ⟨[], []⟩)
  | .chunk [] :: rest => (.ok none, ⟨[], .chunk [] :: rest⟩)
  | .chunk (b :: bytes) :: rest => (.ok (some b), ⟨bytes, rest⟩)
  | .interrupted :: rest => refill rest
  | .fault e :: rest => (.error e, ⟨[], rest⟩)

/-- The next byte of a reader, none at the end. -/
def next : Source → Except ReadError (Option UInt8) × Source
  | ⟨b :: buffer, deliveries⟩ => (.ok (some b), ⟨buffer, deliveries⟩)
  | ⟨[], deliveries⟩ => refill deliveries

/-- Whatever the chunks are, the bytes are taken one by one. -/
theorem takeByte_signals (source : Source) :
    takeByte source.signals = (source.next.1, source.next.2.signals) := by
  obtain ⟨buffer, deliveries⟩ := source
  cases buffer with
  | cons b buffer => rfl
  | nil =>
    induction deliveries with
    | nil => rfl
    | cons delivery deliveries ih =>
      match delivery with
      | .chunk [] => rfl
      | .chunk (b :: bytes) => rfl
      | .interrupted => exact ih
      | .fault e => rfl

end Source

/-! ## Scanning a stream -/

variable {ε σ : Type}

theorem readable_map_ok_append (cs : List Char) (chars : List (Except ε Char)) :
    readable (cs.map .ok ++ chars) = cs ++ readable chars := by
  induction cs with
  | nil => rfl
  | cons c cs ih => rw [List.map_cons, List.cons_append, readable, ih, List.cons_append]

theorem ending_map_ok_append (cs : List Char) (chars : List (Except ε Char)) :
    ending (cs.map .ok ++ chars) = ending chars := by
  induction cs with
  | nil => rfl
  | cons c cs ih => exact ih

/-- Scanning characters that do not fail: all of their events are offered. -/
theorem scan_map_ok (options : ScanOptions) (offer : Offer ε σ) (cs : List Char) (sink : σ) :
    scan options offer (cs.map .ok) sink =
      offerAll offer (({} : Scanner).said options cs) sink := by
  rw [scan_eq_offerAll, Scanner.saidOf, ending_map_ok, readable_map_ok]
  rcases offerAll offer (({} : Scanner).said options cs) sink with ⟨_ | _, _⟩ <;> rfl

/-- Scanning characters that end in an error: their events are offered, and nothing after them. -/
theorem scan_error (options : ScanOptions) (offer : Offer ε σ) (cs : List Char) (e : ε) (sink : σ) :
    scan options offer (cs.map .ok ++ [.error e]) sink =
      let heard := offerAll offer (({} : Scanner).moves options cs).1 sink
      (heard.1.bind fun _ => .error e, heard.2) := by
  rw [scan_eq_offerAll, Scanner.saidOf, ending_map_ok_append, readable_map_ok_append]
  simp only [ending, readable, List.append_nil]
  cases offerAll offer (({} : Scanner).moves options cs).1 sink with
  | mk outcome sink => cases outcome <;> rfl

/-- **A stream is scanned like its text.** However its bytes are delivered, they encode a text and
leave a rest that begins with no character. If nothing is left and no fault ends the stream, the
text is scanned without its byte order mark. Otherwise the events of its characters are offered, the
last run of them not being finished, and the scan ends with a read error under the given name. -/
theorem scanStream_source (name : String) (options : ScanOptions) (offer : Offer RenderError σ)
    (sink : σ) (source : Source) :
    takeByte source.signals = (source.next.1, source.next.2.signals) ∧
      ∃ text rest, deliveredBytes source.signals = Utf8.encode text ++ rest ∧
        (∀ c, ¬ String.utf8EncodeChar c <+: rest) ∧
        scanStream (.templateRead name) source.signals options offer sink =
          if rest = [] ∧ deliveredFault source.signals = none then
            scanText options offer (withoutMark text) sink
          else
            let heard :=
              offerAll offer (({} : Scanner).moves options (withoutMark text).toList).1 sink
            let error := stopError rest (deliveredFault source.signals)
            (heard.1.bind fun _ => .error (.templateRead name error), heard.2) := by
  refine ⟨source.takeByte_signals, ?_⟩
  generalize source.signals = signals
  cases hdecode : Utf8.decodePrefix (deliveredBytes signals) with
  | mk cs rest =>
    obtain ⟨hbytes, hrest⟩ := Utf8.decodePrefix_eq_iff.mp hdecode
    refine ⟨String.ofList cs, rest, hbytes, Utf8.head?_eq_none_iff.mp hrest, ?_⟩
    have hmark : (withoutMark (String.ofList cs)).toList = afterMark cs := by
      rw [withoutMark, String.toList_ofList, String.toList_ofList]
    rw [scanStream, charsOf_eq, streamEnd, hdecode, List.map_append, List.map_map, hmark]
    dsimp only
    split
    · rw [List.map_nil, List.append_nil, scanText, hmark]
      rfl
    · exact scan_error options offer (afterMark cs)
        (.templateRead name (stopError rest (deliveredFault signals))) sink

end Folio
