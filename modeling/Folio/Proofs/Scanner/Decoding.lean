import Folio.Proofs.Scanner.Streaming

/-!
# Characters one at a time

A stream of characters is asked for the next one again and again. It yields the characters of the
longest text that its bytes begin with, then what ends it, and nothing ever after. What ends it is
nothing if no byte is left, and else one error: a byte was missing where the stream broke off, or
the bytes are malformed.

* `CharStream.afterCalls`: a stream that was asked a number of times; `next_afterCalls`: what it
  yields then.
* `Utf8.decodePrefix_longest`: what is decoded is the longest text that there is.
* `AwaitsByte`, `Finish`: where one more byte is asked for, and what ends a stream.
* `Source.bytes`, `Source.fault?`: the bytes of a reader, and the fault that ends them.
* **`CharStream.next_source`**: what each call yields, however the bytes are delivered.
-/

namespace Folio

/-! ## One call after the other -/

namespace CharStream

/-- The stream after it was asked `n` times for the next character. -/
def afterCalls : Nat → CharStream → CharStream
  | 0, stream => stream
  | n + 1, stream => afterCalls n stream.next.2

theorem toList_of_done {stream : CharStream} (h : stream.done = true) : stream.toList = [] := by
  rw [toList_eq, next, if_pos h]

theorem nextPlain_done {stream stream' : CharStream} {item : Option (Except ReadError Char)}
    (h : stream.nextPlain = (item, stream')) (hitem : ∀ c, item ≠ some (.ok c)) :
    stream'.done = true := by
  unfold nextPlain at h
  split at h
  · obtain ⟨rfl, -⟩ := Prod.mk.inj h
    exact absurd rfl (hitem _)
  · exact (Prod.mk.inj h).2 ▸ rfl
  · exact (Prod.mk.inj h).2 ▸ rfl

/-- A call that yields no character is the last one that matters. -/
theorem next_done {stream stream' : CharStream} {item : Option (Except ReadError Char)}
    (h : stream.next = (item, stream')) (hitem : ∀ c, item ≠ some (.ok c)) :
    stream'.done = true := by
  unfold next at h
  split at h
  · next hdone => exact (Prod.mk.inj h).2 ▸ hdone
  · split at h
    · split at h
      · exact nextPlain_done h hitem
      · obtain ⟨rfl, -⟩ := Prod.mk.inj h
        exact absurd rfl (hitem _)
    · exact nextPlain_done h hitem

/-- What a stream yields after a call is all but the first of what it yielded before. -/
theorem toList_next (stream : CharStream) : stream.next.2.toList = stream.toList.tail := by
  rw [stream.toList_eq]
  cases hnext : stream.next with
  | mk item stream' =>
    rcases item with _ | e | c
    · exact toList_of_done (next_done hnext fun c => nofun)
    · exact toList_of_done (next_done hnext fun c => nofun)
    · rfl

/-- **Each call yields one item**, in the order of the items, and none when there are no more. -/
theorem next_afterCalls (stream : CharStream) (n : Nat) :
    (stream.afterCalls n).next.1 = stream.toList[n]? := by
  induction n generalizing stream with
  | zero =>
    rw [afterCalls, stream.toList_eq]
    rcases stream.next with ⟨_ | _ | _, _⟩ <;> rfl
  | succ n ih => rw [afterCalls, ih, toList_next, List.getElem?_tail]

end CharStream

/-! ## The longest text -/

namespace Utf8

/-- A text that a byte string begins with is decoded first. -/
theorem decodePrefix_encode_append (cs : List Char) (rest : List UInt8) :
    decodePrefix (encode (String.ofList cs) ++ rest) =
      (cs ++ (decodePrefix rest).1, (decodePrefix rest).2) := by
  induction cs with
  | nil => simp [encode_eq]
  | cons c cs ih =>
    rw [encode_ofList_cons, List.append_assoc, decodePrefix_utf8EncodeChar_append, ih]
    rfl

/-- **What is decoded is the longest text that the bytes begin with**: they begin with exactly the
texts that it begins with. -/
theorem decodePrefix_longest {bytes rest : List UInt8} {cs : List Char}
    (h : decodePrefix bytes = (cs, rest)) (other : String) :
    encode other <+: bytes ↔ other.toList <+: cs := by
  obtain ⟨hbytes, -⟩ := decodePrefix_eq_iff.mp h
  constructor
  · rintro ⟨more, hmore⟩
    have hother := decodePrefix_encode_append other.toList more
    rw [String.ofList_toList, hmore, h] at hother
    exact ⟨_, (Prod.mk.inj hother).1.symm⟩
  · rintro ⟨more, hmore⟩
    refine ⟨encode (String.ofList more) ++ rest, ?_⟩
    simp only [hbytes, ← hmore, encode_eq, String.toList_ofList, List.flatMap_append,
      List.append_assoc]

/-- Some bytes that stand for a character after a first byte that can begin one. -/
def someTail (b : UInt8) (width : Nat) : List UInt8 :=
  match width with
  | 2 => [0x80]
  | 3 => [if b = 0xE0 then 0xA0 else 0x80, 0x80]
  | 4 => [if b = 0xF0 then 0x90 else 0x80, 0x80, 0x80]
  | _ => []

/-- The first byte tells the width of the characters that begin with it. -/
theorem width?_eq_some_iff {b : UInt8} {w : Nat} :
    width? b = some w ↔
      ∃ c, (String.utf8EncodeChar c).head? = some b ∧ (String.utf8EncodeChar c).length = w := by
  constructor
  · intro h
    have hall : ∀ n : Fin 256, (width? (UInt8.ofNat n)).all fun w =>
        (someTail (UInt8.ofNat n) w).length + 1 == w &&
          (char? (UInt8.ofNat n :: someTail (UInt8.ofNat n) w)).isSome := by decide +kernel
    have hb := hall ⟨b.toNat, b.toNat_lt⟩
    simp only [UInt8.ofNat_toNat, h, Option.all_some, Bool.and_eq_true, beq_iff_eq,
      Option.isSome_iff_exists] at hb
    obtain ⟨hlength, c, hchar⟩ := hb
    rw [char?_eq_some_iff] at hchar
    exact ⟨c, by rw [← hchar]; rfl, by rw [← hchar]; exact hlength⟩
  · rintro ⟨c, hhead, rfl⟩
    cases hencode : String.utf8EncodeChar c with
    | nil => exact absurd hencode String.utf8EncodeChar_ne_nil
    | cons a more =>
      rw [hencode, List.head?_cons, Option.some.injEq] at hhead
      rw [← hhead, width?_of_utf8EncodeChar hencode, List.length_cons]

end Utf8

/-! ## How a stream ends -/

/-- One more byte is asked for: there is none yet, or fewer than in the characters that begin with
the first of them. -/
def AwaitsByte (bytes : List UInt8) : Prop :=
  bytes = [] ∨ ∃ c, (String.utf8EncodeChar c).head? = bytes.head? ∧
    bytes.length < (String.utf8EncodeChar c).length

/-- **What ends a stream** whose bytes leave a rest that begins with no character. -/
inductive Finish (rest : List UInt8) (fault : Option ReadError) :
    List (Except ReadError Char) → Prop
  /-- Nothing is left. -/
  | ended (hrest : rest = []) (hfault : fault = none) : Finish rest fault []
  /-- The stream broke off where one more byte was asked for. -/
  | broken {error : ReadError} (hawaits : AwaitsByte rest) (hfault : fault = some error) :
    Finish rest fault [.error error]
  /-- What is left is malformed, or cut off. -/
  | malformed (hrest : rest ≠ []) (hwhole : ¬ AwaitsByte rest ∨ fault = none) :
    Finish rest fault [.error .malformedCharacter]

theorem Finish.eq_nil_iff {rest : List UInt8} {fault : Option ReadError}
    {finish : List (Except ReadError Char)} (h : Finish rest fault finish) :
    finish = [] ↔ rest = [] ∧ fault = none := by
  cases h with
  | ended hrest hfault => simp [hrest, hfault]
  | broken hawaits hfault => simp [hfault]
  | malformed hrest hwhole => simp [hrest]

theorem awaitsByte_cons_iff {b : UInt8} {more : List UInt8} :
    AwaitsByte (b :: more) ↔ ∃ width, Utf8.width? b = some width ∧ more.length + 1 < width := by
  unfold AwaitsByte
  constructor
  · rintro (h | ⟨c, hhead, hlt⟩)
    · cases h
    · exact ⟨_, Utf8.width?_eq_some_iff.mpr ⟨c, hhead, rfl⟩, hlt⟩
  · rintro ⟨width, hwidth, hlt⟩
    obtain ⟨c, hhead, rfl⟩ := Utf8.width?_eq_some_iff.mp hwidth
    exact .inr ⟨c, hhead, hlt⟩

theorem finish_stopError {rest : List UInt8} {fault : Option ReadError}
    (h : ¬(rest = [] ∧ fault = none)) : Finish rest fault [.error (stopError rest fault)] := by
  unfold stopError
  cases rest with
  | nil =>
    cases fault with
    | none => exact absurd ⟨rfl, rfl⟩ h
    | some e => exact .broken (.inl rfl) rfl
  | cons b more =>
    simp only [List.head?_cons, Option.map_some, List.length_cons]
    have hawaits := @awaitsByte_cons_iff b more
    cases hwidth : Utf8.width? b with
    | none =>
      refine .malformed (List.cons_ne_nil _ _) (.inl ?_)
      simp [hawaits, hwidth]
    | some width =>
      rw [hwidth] at hawaits
      dsimp only
      split
      · next hle =>
        refine .malformed (List.cons_ne_nil _ _) (.inl ?_)
        simp [hawaits, hle]
      · next hle =>
        cases fault with
        | none => exact .malformed (List.cons_ne_nil _ _) (.inr rfl)
        | some e => exact .broken (hawaits.mpr ⟨width, rfl, Nat.lt_of_not_le hle⟩) rfl

theorem finish_streamEnd (signals : List Signal) :
    Finish (Utf8.decodePrefix (deliveredBytes signals)).2 (deliveredFault signals)
      (streamEnd signals) := by
  unfold streamEnd
  dsimp only
  split
  · next h => exact .ended h.1 h.2
  · next h => exact finish_stopError h

/-! ## Readers -/

/-- The bytes in deliveries, up to the end or a fault. -/
def Delivery.bytes : List Delivery → List UInt8
  | [] | .chunk [] :: _ | .fault _ :: _ => []
  | .chunk (b :: bytes) :: rest => b :: bytes ++ Delivery.bytes rest
  | .interrupted :: rest => Delivery.bytes rest

/-- The fault that deliveries end with. -/
def Delivery.fault? : List Delivery → Option ReadError
  | [] | .chunk [] :: _ => none
  | .fault e :: _ => some e
  | .chunk (_ :: _) :: rest | .interrupted :: rest => Delivery.fault? rest

namespace Source

/-- The bytes of a reader, up to the end or a fault. -/
def bytes (source : Source) : List UInt8 :=
  source.buffer ++ Delivery.bytes source.deliveries

/-- The fault that ends the bytes of a reader. -/
def fault? (source : Source) : Option ReadError :=
  Delivery.fault? source.deliveries

theorem deliveredBytes_signals (source : Source) :
    deliveredBytes source.signals = source.bytes := by
  rw [signals, deliveredBytes_append, bytes]
  congr 1
  induction source.deliveries using Delivery.bytes.induct <;>
    simp_all [Delivery.signals, Delivery.bytes, deliveredBytes, deliveredBytes_append]

theorem deliveredFault_signals (source : Source) :
    deliveredFault source.signals = source.fault? := by
  rw [signals, deliveredFault_append, fault?]
  induction source.deliveries using Delivery.fault?.induct <;>
    simp_all [Delivery.signals, Delivery.fault?, deliveredFault, deliveredFault_append]

end Source

/-- **What each call yields.** However the bytes are delivered, one longest text is at their
beginning. Calls for the next character yield the characters of this text in order, without a byte
order mark that is the very first of them, then what ends the stream, and from then on nothing. No
error ends it exactly if no fault does and the bytes are decoded as a whole. -/
theorem CharStream.next_source (source : Source) :
    takeByte source.signals = (source.next.1, source.next.2.signals) ∧
      ∃ text rest finish, source.bytes = Utf8.encode text ++ rest ∧
        (∀ other, Utf8.encode other <+: source.bytes ↔ other.toList <+: text.toList) ∧
        Finish rest source.fault? finish ∧
        (finish = [] ↔ source.fault? = none ∧ Utf8.decode? source.bytes = some text) ∧
        ∀ n, (afterCalls n { signals := source.signals }).next.1 =
          ((withoutMark text).toList.map .ok ++ finish)[n]? := by
  refine ⟨source.takeByte_signals, ?_⟩
  have hfinish := finish_streamEnd source.signals
  rw [source.deliveredBytes_signals, source.deliveredFault_signals] at hfinish
  cases hdecode : Utf8.decodePrefix source.bytes with
  | mk cs rest =>
    obtain ⟨hbytes, -⟩ := Utf8.decodePrefix_eq_iff.mp hdecode
    rw [hdecode] at hfinish
    refine ⟨String.ofList cs, rest, streamEnd source.signals, hbytes, fun other => ?_, hfinish, ?_,
      fun n => ?_⟩
    · rw [String.toList_ofList]
      exact Utf8.decodePrefix_longest hdecode other
    · rw [hfinish.eq_nil_iff, Utf8.decode?_eq_some_iff, hbytes]
      simp [and_comm]
    · have hchars := charsOf_eq source.signals
      rw [source.deliveredBytes_signals, hdecode, charsOf] at hchars
      rw [next_afterCalls, hchars, withoutMark, String.toList_ofList, String.toList_ofList]

end Folio
