/-!
# Blank characters

* `isBlank`: the characters with the white-space property.
* `isLineBreak`: the two characters that end a line.
* **`trim`**: a text without the blank characters at its two ends.
-/

namespace Folio

/-- The characters with the white-space property. -/
def isBlank (c : Char) : Bool :=
  let n := c.toNat
  (0x9 ≤ n && n ≤ 0xD) || n == 0x20 || n == 0x85 || n == 0xA0 || n == 0x1680 ||
    (0x2000 ≤ n && n ≤ 0x200A) || n == 0x2028 || n == 0x2029 || n == 0x202F || n == 0x205F ||
    n == 0x3000

/-- Carriage return and line feed. -/
def isLineBreak (c : Char) : Bool :=
  c == '\r' || c == '\n'

/-- Drop the blank characters at both ends. -/
def trimChars (cs : List Char) : List Char :=
  ((cs.dropWhile isBlank).reverse.dropWhile isBlank).reverse

/-- A text without the blank characters at its two ends. -/
def trim (text : String) : String :=
  String.ofList (trimChars text.toList)

end Folio
