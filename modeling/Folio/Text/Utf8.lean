/-!
# UTF-8

A character is encoded by one to four bytes. The first byte tells how many there are; only the
shortest form is allowed, and only for scalar values.

* `width?`: the length of the sequence that a byte begins.
* `char?`: the character that exactly these bytes encode.
* **`decodePrefix`**: the characters of the longest valid prefix, and the bytes after it.
* `decode?`: the text of a byte string that is valid as a whole.
* `decodeLossy`: every maximal invalid part becomes U+FFFD.
* `splitText?`: a text cut after a number of bytes.
-/

namespace Folio.Utf8

/-- The number of bytes in the sequence that a byte begins. -/
def width? (b : UInt8) : Option Nat :=
  if b ≤ 0x7F then some 1
  else if 0xC2 ≤ b ∧ b ≤ 0xDF then some 2
  else if 0xE0 ≤ b ∧ b ≤ 0xEF then some 3
  else if 0xF0 ≤ b ∧ b ≤ 0xF4 then some 4
  else none

/-- Is the byte one that continues a sequence? -/
def isContinuation (b : UInt8) : Bool :=
  0x80 ≤ b && b ≤ 0xBF

/-- The six payload bits of a continuation byte. -/
def payload (b : UInt8) : Nat :=
  b.toNat % 64

/-- A scalar value that is at least `least`. -/
def scalar? (least n : Nat) : Option Char :=
  if least ≤ n ∧ n.isValidChar then some (Char.ofNat n) else none

/-- The character that exactly these bytes encode. -/
def char? : List UInt8 → Option Char
  | [a] => if a ≤ 0x7F then scalar? 0 a.toNat else none
  | [a, b] =>
    if 0xC0 ≤ a ∧ a ≤ 0xDF ∧ isContinuation b then
      scalar? 0x80 (a.toNat % 32 * 64 + payload b)
    else none
  | [a, b, c] =>
    if 0xE0 ≤ a ∧ a ≤ 0xEF ∧ isContinuation b ∧ isContinuation c then
      scalar? 0x800 (a.toNat % 16 * 4096 + payload b * 64 + payload c)
    else none
  | [a, b, c, d] =>
    if 0xF0 ≤ a ∧ a ≤ 0xF7 ∧ isContinuation b ∧ isContinuation c ∧ isContinuation d then
      scalar? 0x10000 (a.toNat % 8 * 262144 + payload b * 4096 + payload c * 64 + payload d)
    else none
  | _ => none

/-- The first character of a byte string. -/
def head? : List UInt8 → Option (Char × Nat)
  | [] => none
  | b :: rest =>
    match width? b with
    | none => none
    | some w => (char? (b :: rest.take (w - 1))).map fun c => (c, w)

/-- The characters of the longest valid prefix, and the bytes after it. -/
def decodePrefix (bytes : List UInt8) : List Char × List UInt8 :=
  match bytes with
  | [] => ([], [])
  | b :: rest =>
    match head? (b :: rest) with
    | none => ([], b :: rest)
    | some (c, w) =>
      let (cs, after) := decodePrefix (rest.drop (w - 1))
      (c :: cs, after)
  termination_by bytes.length
  decreasing_by simp only [List.length_drop, List.length_cons]; omega

/-- The text of a byte string that is valid from end to end. -/
def decode? (bytes : List UInt8) : Option String :=
  match decodePrefix bytes with
  | (cs, []) => some (String.ofList cs)
  | (_, _ :: _) => none

/-- May `b` stand second in a sequence that begins with `a`? -/
def mayFollow (a b : UInt8) : Bool :=
  if a == 0xE0 then 0xA0 ≤ b && b ≤ 0xBF
  else if a == 0xED then 0x80 ≤ b && b ≤ 0x9F
  else if a == 0xF0 then 0x90 ≤ b && b ≤ 0xBF
  else if a == 0xF4 then 0x80 ≤ b && b ≤ 0x8F
  else isContinuation b

/-- The number of bytes after `a` that still belong to the sequence it begins. -/
def invalidTail (a : UInt8) (rest : List UInt8) : Nat :=
  match width? a, rest with
  | some w, b :: more =>
    if w ≥ 2 && mayFollow a b then 1 + ((more.take (w - 2)).takeWhile isContinuation).length else 0
  | _, _ => 0

/-- Decode, with U+FFFD for every maximal invalid part. -/
def lossyChars (bytes : List UInt8) : List Char :=
  match bytes with
  | [] => []
  | b :: rest =>
    match head? (b :: rest) with
    | some (c, w) => c :: lossyChars (rest.drop (w - 1))
    | none => '\uFFFD' :: lossyChars (rest.drop (invalidTail b rest))
  termination_by bytes.length
  decreasing_by all_goals simp only [List.length_drop, List.length_cons]; omega

/-- The text of a byte string, with U+FFFD for every maximal invalid part. -/
def decodeLossy (bytes : List UInt8) : String :=
  String.ofList (lossyChars bytes)

/-- The bytes of a text. -/
def encode (text : String) : List UInt8 :=
  text.toUTF8.toList

/-- Characters cut after `n` bytes; none where one stands across the cut or they end before it. -/
def splitChars? : Nat → List Char → Option (List Char × List Char)
  | 0, cs => some ([], cs)
  | _ + 1, [] => none
  | n + 1, c :: cs =>
    if c.utf8Size ≤ n + 1 then
      (splitChars? (n + 1 - c.utf8Size) cs).map fun (start, rest) => (c :: start, rest)
    else none

/-- A text cut after `n` bytes; none where a character stands across the cut or the text ends before
it. -/
def splitText? (n : Nat) (text : String) : Option (String × String) :=
  (splitChars? n text.toList).map fun (start, rest) => (String.ofList start, String.ofList rest)

end Folio.Utf8
