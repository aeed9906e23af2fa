import Folio.Text.Utf8
import Mathlib.Data.List.Basic
import Mathlib.Data.String.Basic

/-!
# Decoding undoes encoding

Every byte string splits in one way into the encoding of a text and bytes with which no encoded
character begins. The text is what is decoded, and the bytes after it are what is left.

* `char?_eq_some_iff`: the bytes that encode a character.
* `head?_eq_some_iff`, `head?_eq_none_iff`: the character that a byte string begins with.
* **`decodePrefix_eq_iff`**: the text that a byte string begins with.
* `decode?_eq_some_iff`: the byte strings that encode a text as a whole.
* `splitText?_eq_some_iff`: a text cut after a number of bytes.
* `encode_lt_iff`: texts stand in the order of their bytes.
-/

namespace Folio.Utf8

/-! ## One character -/

theorem scalar?_toNat {least : Nat} {c : Char} (h : least ≤ c.toNat) :
    scalar? least c.toNat = some c := by
  have hvalid : c.toNat.isValidChar := c.valid
  rw [scalar?, if_pos ⟨h, hvalid⟩, Char.ofNat_toNat]

theorem scalar?_eq_some {least n : Nat} {c : Char} (h : scalar? least n = some c) :
    least ≤ n ∧ c.val.toNat = n := by
  unfold scalar? at h
  split at h
  · next hn =>
    refine ⟨hn.1, ?_⟩
    rw [← Option.some.inj h, Char.ofNat, dif_pos hn.2]
    rfl
  · cases h

theorem isContinuation_iff {b : UInt8} :
    isContinuation b = true ↔ 0x80 ≤ b.toNat ∧ b.toNat ≤ 0xBF := by
  simp [isContinuation, UInt8.le_iff_toNat_le]

theorem char?_utf8EncodeChar (c : Char) : char? (String.utf8EncodeChar c) = some c := by
  have hvalid : c.toNat.isValidChar := c.valid
  have hval : c.val.toNat = c.toNat := rfl
  have hscalar {least n : Nat} (hn : n = c.toNat) (h : least ≤ c.toNat) :
      scalar? least n = some c := hn ▸ scalar?_toNat h
  simp only [Nat.isValidChar] at hvalid
  unfold String.utf8EncodeChar
  simp only [hval]
  split
  · simp only [char?, UInt8.le_iff_toNat_le]
    rw [if_pos (by simp; omega)]
    exact hscalar (by simp; omega) (by omega)
  split
  · simp only [char?, UInt8.le_iff_toNat_le, isContinuation_iff, payload]
    rw [if_pos (by simp; omega)]
    exact hscalar (by simp; omega) (by omega)
  split
  · simp only [char?, UInt8.le_iff_toNat_le, isContinuation_iff, payload]
    rw [if_pos (by simp; omega)]
    exact hscalar (by simp; omega) (by omega)
  · rw [char?, payload, payload, payload]
    simp only [UInt8.le_iff_toNat_le, isContinuation_iff]
    rw [if_pos (by simp; omega)]
    exact hscalar (by simp; omega) (by omega)

theorem utf8EncodeChar_of_char? {bytes : List UInt8} {c : Char} (h : char? bytes = some c) :
    String.utf8EncodeChar c = bytes := by
  unfold String.utf8EncodeChar
  match bytes with
  | [] => cases h
  | [a] =>
    simp only [char?, UInt8.le_iff_toNat_le] at h
    split at h
    · next ha =>
      obtain ⟨-, hc⟩ := scalar?_eq_some h
      simp only [hc]
      rw [if_pos (by simpa using ha)]
      simp
    · cases h
  | [a, b] =>
    simp only [char?, UInt8.le_iff_toNat_le, isContinuation_iff, payload] at h
    split at h
    · next hbytes =>
      obtain ⟨hleast, hc⟩ := scalar?_eq_some h
      simp at hbytes
      simp only [hc]
      rw [if_neg (by omega), if_pos (by omega)]
      simp only [List.cons.injEq, ← UInt8.toNat_inj, UInt8.toNat_ofNat', and_true]
      omega
    · cases h
  | [a, b, d] =>
    simp only [char?, UInt8.le_iff_toNat_le, isContinuation_iff, payload] at h
    split at h
    · next hbytes =>
      obtain ⟨hleast, hc⟩ := scalar?_eq_some h
      simp at hbytes
      simp only [hc]
      rw [if_neg (by omega), if_neg (by omega), if_pos (by omega)]
      simp only [List.cons.injEq, ← UInt8.toNat_inj, UInt8.toNat_ofNat', and_true]
      omega
    · cases h
  | [a, b, d, e] =>
    rw [char?, payload, payload, payload] at h
    simp only [UInt8.le_iff_toNat_le, isContinuation_iff] at h
    split at h
    · next hbytes =>
      obtain ⟨hleast, hc⟩ := scalar?_eq_some h
      simp at hbytes
      simp only [hc]
      rw [if_neg (by omega), if_neg (by omega), if_neg (by omega)]
      simp only [List.cons.injEq, ← UInt8.toNat_inj, UInt8.toNat_ofNat', and_true]
      omega
    · cases h
  | _ :: _ :: _ :: _ :: _ :: _ => cases h

theorem char?_eq_some_iff {bytes : List UInt8} {c : Char} :
    char? bytes = some c ↔ bytes = String.utf8EncodeChar c :=
  ⟨fun h => (utf8EncodeChar_of_char? h).symm, fun h => h ▸ char?_utf8EncodeChar c⟩

/-- The first byte of a character tells how many there are. -/
theorem width?_of_utf8EncodeChar {c : Char} {b : UInt8} {more : List UInt8}
    (h : String.utf8EncodeChar c = b :: more) : width? b = some (more.length + 1) := by
  have hvalid : c.toNat.isValidChar := c.valid
  have hval : c.val.toNat = c.toNat := rfl
  simp only [Nat.isValidChar] at hvalid
  unfold String.utf8EncodeChar at h
  simp only [hval] at h
  simp only [width?, UInt8.le_iff_toNat_le]
  split at h
  · obtain ⟨rfl, rfl⟩ := List.cons.inj h
    rw [if_pos (by simp; omega)]
    rfl
  split at h
  · obtain ⟨rfl, rfl⟩ := List.cons.inj h
    rw [if_neg (by simp; omega), if_pos (by simp; omega)]
    rfl
  split at h
  · obtain ⟨rfl, rfl⟩ := List.cons.inj h
    rw [if_neg (by simp; omega), if_neg (by simp; omega), if_pos (by simp; omega)]
    rfl
  · obtain ⟨rfl, rfl⟩ := List.cons.inj h
    rw [if_neg (by simp; omega), if_neg (by simp; omega), if_neg (by simp; omega),
      if_pos (by simp; omega)]
    rfl

theorem head?_eq_some_iff {bytes : List UInt8} {c : Char} {w : Nat} :
    head? bytes = some (c, w) ↔
      w = (String.utf8EncodeChar c).length ∧ ∃ rest, bytes = String.utf8EncodeChar c ++ rest := by
  constructor
  · intro h
    cases bytes with
    | nil => cases h
    | cons b more =>
      unfold head? at h
      dsimp only at h
      cases hwidth : width? b with
      | none =>
        rw [hwidth] at h
        cases h
      | some width =>
        rw [hwidth] at h
        obtain ⟨c', hchar, hpair⟩ := Option.map_eq_some_iff.mp h
        obtain ⟨rfl, rfl⟩ := Prod.mk.inj hpair
        have hencode := (char?_eq_some_iff.mp hchar).symm
        have hsame := hwidth.symm.trans (width?_of_utf8EncodeChar hencode)
        refine ⟨?_, more.drop (width - 1), ?_⟩
        · rw [hencode]
          exact Option.some.inj hsame
        · rw [hencode, List.cons_append, List.take_append_drop]
  · rintro ⟨rfl, rest, rfl⟩
    cases hencode : String.utf8EncodeChar c with
    | nil => exact absurd hencode String.utf8EncodeChar_ne_nil
    | cons b more =>
      unfold head?
      rw [List.cons_append]
      dsimp only
      rw [width?_of_utf8EncodeChar hencode]
      dsimp only
      rw [Nat.add_sub_cancel, List.take_left, ← hencode, char?_utf8EncodeChar, hencode]
      rfl

/-- No character begins a byte string if none can be decoded there. -/
theorem head?_eq_none_iff {bytes : List UInt8} :
    head? bytes = none ↔ ∀ c, ¬ String.utf8EncodeChar c <+: bytes := by
  rw [Option.eq_none_iff_forall_ne_some]
  constructor
  · rintro h c ⟨rest, hrest⟩
    exact h (c, _) (head?_eq_some_iff.mpr ⟨rfl, rest, hrest.symm⟩)
  · rintro h ⟨c, w⟩ hhead
    obtain ⟨-, rest, hrest⟩ := head?_eq_some_iff.mp hhead
    exact h c ⟨rest, hrest.symm⟩

/-! ## Texts -/

theorem toList_loop (bytes : ByteArray) (i : Nat) (taken : List UInt8) :
    ByteArray.toList.loop bytes i taken = taken.reverse ++ bytes.data.toList.drop i := by
  fun_induction ByteArray.toList.loop bytes i taken with
  | case1 i taken hi ih =>
    have hi' : i < bytes.data.toList.length := by simpa using hi
    rw [ih, List.drop_eq_getElem_cons hi', List.reverse_cons, List.append_assoc,
      List.singleton_append]
    simp [ByteArray.get!, hi]
  | case2 i taken hi =>
    rw [List.drop_eq_nil_of_le (by simpa using hi), List.append_nil]

theorem encode_eq (text : String) : encode text = text.toList.flatMap String.utf8EncodeChar := by
  have htext : text.toUTF8 = text.toList.utf8Encode := String.utf8Encode_toList.symm
  rw [encode, htext, ByteArray.toList, toList_loop, List.utf8Encode, List.toList_data_toByteArray]
  rfl

theorem encode_ofList_cons (c : Char) (cs : List Char) :
    encode (String.ofList (c :: cs)) = String.utf8EncodeChar c ++ encode (String.ofList cs) := by
  simp only [encode_eq, String.toList_ofList, List.flatMap_cons]

theorem decodePrefix_of_head?_none {bytes : List UInt8} (h : head? bytes = none) :
    decodePrefix bytes = ([], bytes) := by
  unfold decodePrefix
  split
  · rfl
  · rw [h]

theorem decodePrefix_utf8EncodeChar_append (c : Char) (rest : List UInt8) :
    decodePrefix (String.utf8EncodeChar c ++ rest) =
      (c :: (decodePrefix rest).1, (decodePrefix rest).2) := by
  have hhead : head? (String.utf8EncodeChar c ++ rest) =
      some (c, (String.utf8EncodeChar c).length) := head?_eq_some_iff.mpr ⟨rfl, rest, rfl⟩
  rw [decodePrefix.eq_def]
  cases hencode : String.utf8EncodeChar c with
  | nil => exact absurd hencode String.utf8EncodeChar_ne_nil
  | cons b more =>
    rw [hencode] at hhead
    rw [List.cons_append] at hhead ⊢
    dsimp only
    rw [hhead]
    dsimp only
    rw [List.length_cons, Nat.add_sub_cancel, List.drop_left]

/-- **The text that a byte string begins with**: it is decoded as far as encoded characters go. -/
theorem decodePrefix_eq_iff {bytes rest : List UInt8} {cs : List Char} :
    decodePrefix bytes = (cs, rest) ↔
      bytes = encode (String.ofList cs) ++ rest ∧ head? rest = none := by
  constructor
  · intro h
    induction hlength : bytes.length using Nat.strongRecOn generalizing bytes cs with
    | ind n ih =>
      subst hlength
      cases hhead : head? bytes with
      | none =>
        rw [decodePrefix_of_head?_none hhead] at h
        obtain ⟨rfl, rfl⟩ := Prod.mk.inj h
        exact ⟨by simp [encode_eq], hhead⟩
      | some found =>
        obtain ⟨-, more, rfl⟩ := head?_eq_some_iff.mp hhead
        rw [decodePrefix_utf8EncodeChar_append] at h
        obtain ⟨rfl, rfl⟩ := Prod.mk.inj h
        have hshort : more.length < (String.utf8EncodeChar found.1 ++ more).length := by
          have hne := List.length_pos_iff.mpr (@String.utf8EncodeChar_ne_nil found.1)
          rw [List.length_append]
          omega
        obtain ⟨hmore, hrest⟩ := @ih _ hshort more (decodePrefix more).1 rfl rfl
        refine ⟨?_, hrest⟩
        rw [encode_ofList_cons, List.append_assoc, ← hmore]
  · rintro ⟨rfl, hrest⟩
    induction cs with
    | nil => simpa [encode_eq] using decodePrefix_of_head?_none hrest
    | cons c cs ih =>
      rw [encode_ofList_cons, List.append_assoc, decodePrefix_utf8EncodeChar_append, ih]

/-- **Decoding accepts what encoding produces**, and nothing else. -/
theorem decode?_eq_some_iff {bytes : List UInt8} {text : String} :
    decode? bytes = some text ↔ bytes = encode text := by
  have hiff := @decodePrefix_eq_iff bytes [] text.toList
  rw [String.ofList_toList, List.append_nil] at hiff
  have hnil : head? [] = none := rfl
  simp only [hnil, and_true] at hiff
  rw [← hiff]
  unfold decode?
  obtain ⟨cs, rest⟩ := decodePrefix bytes
  cases rest with
  | nil => simp [String.ext_iff]
  | cons b rest => simp

/-! ## A cut after a number of bytes -/

theorem utf8ByteSize_ofList_cons (c : Char) (cs : List Char) :
    (String.ofList (c :: cs)).utf8ByteSize = c.utf8Size + (String.ofList cs).utf8ByteSize := by
  rw [String.ofList_cons, String.utf8ByteSize_append, String.utf8ByteSize_singleton]

theorem splitChars?_append (start rest : List Char) :
    splitChars? (String.ofList start).utf8ByteSize (start ++ rest) = some (start, rest) := by
  induction start with
  | nil => rw [String.ofList_nil, String.utf8ByteSize_empty, splitChars?, List.nil_append]
  | cons c start ih =>
    have hwide := c.utf8Size_pos
    obtain ⟨n, hn⟩ : ∃ n, c.utf8Size + (String.ofList start).utf8ByteSize = n + 1 :=
      ⟨c.utf8Size + (String.ofList start).utf8ByteSize - 1, by omega⟩
    have hleft : n + 1 - c.utf8Size = (String.ofList start).utf8ByteSize := by omega
    rw [utf8ByteSize_ofList_cons, hn, List.cons_append, splitChars?, if_pos (by omega), hleft, ih]
    rfl

theorem eq_append_of_splitChars? {n : Nat} {cs start rest : List Char}
    (h : splitChars? n cs = some (start, rest)) :
    cs = start ++ rest ∧ (String.ofList start).utf8ByteSize = n := by
  fun_induction splitChars? n cs generalizing start with
  | case1 cs =>
    obtain ⟨rfl, rfl⟩ := Prod.mk.inj (Option.some.inj h)
    exact ⟨rfl, rfl⟩
  | case2 n => cases h
  | case3 n c cs hfits ih =>
    obtain ⟨⟨first, last⟩, hsplit, hpair⟩ := Option.map_eq_some_iff.mp h
    obtain ⟨rfl, rfl⟩ := Prod.mk.inj hpair
    obtain ⟨rfl, hsize⟩ := ih hsplit
    refine ⟨rfl, ?_⟩
    rw [utf8ByteSize_ofList_cons, hsize]
    omega
  | case4 n c cs hlarge => cases h

/-- **A text is cut after `n` bytes** where it has a start of that size. -/
theorem splitText?_eq_some_iff {n : Nat} {text start rest : String} :
    splitText? n text = some (start, rest) ↔ text = start ++ rest ∧ start.utf8ByteSize = n := by
  rw [splitText?, Option.map_eq_some_iff]
  constructor
  · rintro ⟨⟨first, last⟩, hsplit, hpair⟩
    obtain ⟨rfl, rfl⟩ := Prod.mk.inj hpair
    obtain ⟨htext, hsize⟩ := eq_append_of_splitChars? hsplit
    refine ⟨?_, hsize⟩
    rw [← String.ofList_append, ← htext, String.ofList_toList]
  · rintro ⟨rfl, rfl⟩
    refine ⟨(start.toList, rest.toList), ?_, ?_⟩
    · have hsplit := splitChars?_append start.toList rest.toList
      rwa [String.ofList_toList, ← String.toList_append] at hsplit
    · exact Prod.ext String.ofList_toList String.ofList_toList

/-! ## The order of texts -/

theorem lt_iff_sixBits {m n : Nat} :
    m < n ↔ m / 64 < n / 64 ∨ m / 64 = n / 64 ∧ m % 64 < n % 64 := by
  omega

/-- A lower character is encoded by lower bytes, whatever follows. -/
theorem utf8EncodeChar_append_lt {c d : Char} (h : c < d) (rest more : List UInt8) :
    String.utf8EncodeChar c ++ rest < String.utf8EncodeChar d ++ more := by
  have hval : c.val.toNat < d.val.toNat := h
  have hvalid : d.val.toNat.isValidChar := d.valid
  simp only [Nat.isValidChar] at hvalid
  unfold String.utf8EncodeChar
  generalize c.val.toNat = m at hval
  generalize d.val.toNat = n at hval hvalid
  -- Six bits at a time, as they are spread over the longest encoding.
  have hbits := hval
  rw [lt_iff_sixBits, lt_iff_sixBits (m := m / 64), lt_iff_sixBits (m := m / 64 / 64)] at hbits
  simp only [Nat.div_div_eq_div_mul, Nat.reduceMul] at hbits
  dsimp only
  split_ifs <;>
    simp (disch := omega) only [List.cons_append, List.nil_append, List.cons_lt_cons_iff,
      UInt8.lt_iff_toNat_lt, ← UInt8.toNat_inj, UInt8.toNat_ofNat', Nat.reducePow,
      Nat.mod_eq_of_lt] <;>
    omega

theorem flatMap_utf8EncodeChar_lt {cs ds : List Char} (h : cs < ds) :
    cs.flatMap String.utf8EncodeChar < ds.flatMap String.utf8EncodeChar := by
  induction h with
  | @nil d ds =>
    cases hencode : String.utf8EncodeChar d with
    | nil => exact absurd hencode String.utf8EncodeChar_ne_nil
    | cons b more =>
      rw [List.flatMap_nil, List.flatMap_cons, hencode]
      exact .nil
  | @cons c cs ds _ ih => exact List.append_left_lt ih
  | @rel c cs d ds h => exact utf8EncodeChar_append_lt h _ _

/-- **Texts stand in the order of their bytes.** -/
theorem encode_lt_iff {a b : String} : encode a < encode b ↔ a < b := by
  have hlt {a b : String} (h : a < b) : encode a < encode b := by
    rw [encode_eq, encode_eq]
    exact flatMap_utf8EncodeChar_lt (String.lt_iff_toList_lt.mp h)
  refine ⟨fun h => ?_, hlt⟩
  rcases lt_trichotomy a b with hab | rfl | hba
  · exact hab
  · exact absurd h (List.lt_irrefl _)
  · exact absurd h (List.lt_asymm (hlt hba))

theorem encode_le_iff {a b : String} : encode a ≤ encode b ↔ a ≤ b := by
  rw [← List.not_lt, encode_lt_iff, not_lt]

end Folio.Utf8
