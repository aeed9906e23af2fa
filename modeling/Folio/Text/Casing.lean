import Folio.Unicode.CaseMap
import Folio.Unicode.Property

/-!
# Casing of texts

* `asciiEqual`: equality up to the case of the letters A to Z.
* **`lowercase`**: the lower-case form of a text, with the sigma that ends a word in its final form.
-/

namespace Folio

/-- Equality up to the case of the letters A to Z. -/
def asciiEqual (a b : String) : Bool :=
  a.toList.map Char.toLower == b.toList.map Char.toLower

/-- Is the first character that casing does not look through a cased one? -/
def meetsCased (cs : List Char) : Bool :=
  match cs.dropWhile Unicode.isCaseIgnorable with
  | [] => false
  | c :: _ => Unicode.isCased c

/-- The lower-case form of a character between `before`, nearest first, and `after`. -/
def lowercaseChar (before : List Char) (c : Char) (after : List Char) : List Char :=
  if c == 'Σ' then [if meetsCased before && !meetsCased after then 'ς' else 'σ']
  else if c == '\u0130' then ['i', '\u0307']
  else [Unicode.lowerCase c]

/-- Lower-case the characters that follow `before`, which stands nearest first. -/
def lowercaseAfter (before : List Char) : List Char → List Char
  | [] => []
  | c :: rest => lowercaseChar before c rest ++ lowercaseAfter (c :: before) rest

/-- The lower-case form of a text. -/
def lowercase (text : String) : String :=
  String.ofList (lowercaseAfter [] text.toList)

end Folio
