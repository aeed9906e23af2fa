import Folio.Text.Utf8

/-!
# Query strings

A query is a list of pairs between ampersands. In names and values a plus sign is a blank, and a per
cent sign with two hexadecimal digits is a byte.

* `decodeByte?`: the byte of two hexadecimal digits.
* `decodeComponent`: the text of a name or a value.
* **`parseQuery`**: the pairs of a query.
-/

namespace Folio.Http

/-- The value of a hexadecimal digit. -/
def hexValue? (b : UInt8) : Option UInt8 :=
  if 0x30 ≤ b ∧ b ≤ 0x39 then some (b - 0x30)
  else if 0x41 ≤ b ∧ b ≤ 0x46 then some (b - 0x37)
  else if 0x61 ≤ b ∧ b ≤ 0x66 then some (b - 0x57)
  else none

/-- The byte of two hexadecimal digits. -/
def decodeByte? (a b : UInt8) : Option UInt8 :=
  match hexValue? a, hexValue? b with
  | some high, some low => some (high * 16 + low)
  | _, _ => none

/-- Decode the bytes of a name or a value. -/
def decodeBytes : List UInt8 → List UInt8
  | [] => []
  | c :: rest =>
    if c == 0x2B then 0x20 :: decodeBytes rest
    else if c == 0x25 then
      match rest with
      | a :: b :: more =>
        match decodeByte? a b with
        | some byte => byte :: decodeBytes more
        | none => c :: decodeBytes (a :: b :: more)
      | few => c :: decodeBytes few
    else c :: decodeBytes rest

/-- The text of a name or a value; bytes that are no text become U+FFFD. -/
def decodeComponent (chars : List Char) : String :=
  Utf8.decodeLossy (decodeBytes (Utf8.encode (String.ofList chars)))

/-- A name, and what follows the first equals sign. -/
def parsePair (chars : List Char) : String × String :=
  let name := chars.takeWhile (· != '=')
  (decodeComponent name, decodeComponent (chars.drop (name.length + 1)))

/-- **The pairs of a query**; empty ones are passed over. -/
def parseQuery (query : String) : List (String × String) :=
  ((query.splitOn "&").filter (· ≠ "")).map fun pair => parsePair pair.toList

end Folio.Http
