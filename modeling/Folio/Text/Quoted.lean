import Folio.Unicode.Category
import Folio.Unicode.Property

/-!
# Quoted texts

Texts and characters are quoted for people to read: line breaks, tabs and the quote itself are
escaped, and so is every character that does not print by itself.

* `isPrintable`: letters, marks, numbers, punctuation, symbols and the plain blank.
* `isAttached`: marks that are shown with the character before them.
* `escapeChar`: how a character is written between a given kind of quotes.
* **`quoteText`**, **`quoteChar`**: a text between double quotes, a character between single ones.
-/

namespace Folio

/-- The characters of which nothing is seen: controls, and blanks other than the plain one. -/
private def hiddenSet : Unicode.CharSet :=
  (Unicode.categories .seventeen [.control, .format, .surrogate, .privateUse, .unassigned,
    .spaceSeparator, .lineSeparator, .paragraphSeparator]).diff (Unicode.CharSet.single ' ')

/-- Characters that print by themselves. -/
def isPrintable (c : Char) : Bool :=
  !hiddenSet.has c && !Unicode.isDefaultIgnorable c

/-- Marks that are shown with the character before them, but for the two halfwidth sound marks. -/
def isAttached (c : Char) : Bool :=
  Unicode.extendsGrapheme c && c != '\uff9e' && c != '\uff9f'

/-- A number in lower-case hexadecimal. -/
def hexText (n : Nat) : List Char :=
  Nat.toDigits 16 n

/-- A character as written between the quotes `quote`. -/
def escapeChar (quote c : Char) : List Char :=
  if c == '\x00' then ['\\', '0']
  else if c == '\t' then ['\\', 't']
  else if c == '\r' then ['\\', 'r']
  else if c == '\n' then ['\\', 'n']
  else if c == '\\' || c == quote then ['\\', c]
  else if !isAttached c && isPrintable c then [c]
  else ['\\', 'u', '{'] ++ hexText c.toNat ++ ['}']

/-- A text between double quotes. -/
def quoteText (text : String) : String :=
  String.ofList ('"' :: (text.toList.flatMap (escapeChar '"') ++ ['"']))

/-- A character between single quotes. -/
def quoteChar (c : Char) : String :=
  String.ofList ('\'' :: (escapeChar '\'' c ++ ['\'']))

/-- A list of quoted texts between brackets. -/
def quoteTexts (texts : List String) : String :=
  "[" ++ ", ".intercalate (texts.map quoteText) ++ "]"

end Folio
