import Folio.Unicode.CharSet

/-!
# Spans of bytes

The UTF-8 encodings of a span of characters are covered by sequences of byte spans: each byte of a
sequence runs over its span, whatever the other bytes are. A span of characters is cut where
encodings grow longer, at the surrogates, and where a byte does not run over its full range.

* `ByteSpan`: the bytes between two ends.
* `cutAfter?`: the last character before the first cut of a span.
* **`byteSequences`**: the sequences of a set of characters, in ascending order.
-/

namespace Folio.Pattern

open Unicode (CharSet nextScalar)

/-- The bytes from `lo` to `hi`, both included. -/
structure ByteSpan where
  lo : Nat
  hi : Nat
  deriving DecidableEq, Inhabited, Repr

/-- The UTF-8 encoding of a scalar value. -/
def encodeScalar (n : Nat) : List Nat :=
  if n < 0x80 then [n]
  else if n < 0x800 then [0xC0 + n / 64, 0x80 + n % 64]
  else if n < 0x10000 then [0xE0 + n / 4096, 0x80 + n / 64 % 64, 0x80 + n % 64]
  else [0xF0 + n / 262144, 0x80 + n / 4096 % 64, 0x80 + n / 64 % 64, 0x80 + n % 64]

/-- The last value before the first cut of a span that is encoded in one length: its ends agree in
the byte that is worth `block`, or the bytes after it run over their full range. -/
def cutInBlocks? (lo hi : Nat) : List Nat → Option Nat
  | [] => none
  | block :: rest =>
    if lo / block ≠ hi / block ∧ lo % block ≠ 0 then some (lo / block * block + (block - 1))
    else if lo / block ≠ hi / block ∧ hi % block ≠ block - 1 then some (hi / block * block - 1)
    else cutInBlocks? lo hi rest

/-- The last value before the first cut of a span. -/
def cutAfter? (lo hi : Nat) : Option Nat :=
  match [0xD7FF, 0x7F, 0x7FF, 0xFFFF].find? fun last => lo ≤ last && last < hi with
  | some last => some last
  | none => if hi < 0x80 then none else cutInBlocks? lo hi [64, 4096, 262144]

/-- The sequences of the characters from `lo` to `hi`. -/
def spanSequences (lo hi : Nat) : List (List ByteSpan) :=
  if hi < lo then []
  else
    match cutAfter? lo hi with
    | none => [(encodeScalar lo).zipWith ByteSpan.mk (encodeScalar hi)]
    | some last =>
      if lo ≤ last ∧ last < hi then spanSequences lo last ++ spanSequences (nextScalar last) hi
      else []
  termination_by hi + 1 - lo
  decreasing_by
    · omega
    · simp only [nextScalar]; split <;> omega

/-- **The sequences of a set of characters**, in ascending order. -/
def byteSequences (set : CharSet) : List (List ByteSpan) :=
  set.spans.toList.flatMap fun span => spanSequences span.lo span.hi

end Folio.Pattern
