import Folio.Unicode.Named

/-!
# Classes of characters

* `digitChars`, `spaceChars`, `wordChars`: the classes with a letter of their own, and the same
  among the ASCII characters.
* **`asciiClass?`**: the ASCII classes with a name.
* `foldAscii`: closing a set under the case of the letters A to Z.
-/

namespace Folio.Pattern

open Unicode (CharSet Category categories)

/-- Decimal digits of every script. -/
def digitChars : CharSet :=
  Category.decimalNumber.chars .sixteen

/-- Blank characters. -/
def spaceChars : CharSet :=
  Unicode.Property.listedChars .sixteen "White_Space"

/-- Letters, marks, decimal digits, connectors and joiners. -/
def wordChars : CharSet :=
  (Unicode.Property.alphabetic .sixteen).union
    ((categories .sixteen [.nonspacingMark, .spacingMark, .enclosingMark, .decimalNumber,
      .connectorPunctuation]).union (Unicode.Property.listedChars .sixteen "Join_Control"))

def asciiDigits : CharSet := CharSet.ofText ["30-39"]

def asciiSpaces : CharSet := CharSet.ofText ["9-d 20"]

def asciiWordChars : CharSet := CharSet.ofText ["30-39 41-5a 5f 61-7a"]

/-- **The ASCII class of a name.** -/
def asciiClass? (name : String) : Option CharSet :=
  match name with
  | "alnum" => some (CharSet.ofText ["30-39 41-5a 61-7a"])
  | "alpha" => some (CharSet.ofText ["41-5a 61-7a"])
  | "ascii" => some (CharSet.ofText ["0-7f"])
  | "blank" => some (CharSet.ofText ["9 20"])
  | "cntrl" => some (CharSet.ofText ["0-1f 7f"])
  | "digit" => some asciiDigits
  | "graph" => some (CharSet.ofText ["21-7e"])
  | "lower" => some (CharSet.ofText ["61-7a"])
  | "print" => some (CharSet.ofText ["20-7e"])
  | "punct" => some (CharSet.ofText ["21-2f 3a-40 5b-60 7b-7e"])
  | "space" => some asciiSpaces
  | "upper" => some (CharSet.ofText ["41-5a"])
  | "word" => some asciiWordChars
  | "xdigit" => some (CharSet.ofText ["30-39 41-46 61-66"])
  | _ => none

/-- The small letters. -/
def smallLetters : List Char :=
  "abcdefghijklmnopqrstuvwxyz".toList

/-- The characters that are equal to a member up to the case of the letters A to Z. -/
def foldAscii (set : CharSet) : CharSet :=
  set.union (CharSet.ofChars (smallLetters.flatMap fun c =>
    if set.has c || set.has c.toUpper then [c, c.toUpper] else []))

end Folio.Pattern
