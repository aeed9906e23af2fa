import Folio.Decimal.Shortest
import Folio.Json.Value

/-!
# Writing JSON

Values are written without blanks. Texts escape the quote, the backslash and control characters;
doubles have the fewest digits that read back.

* `quoted`: a text as JSON.
* `Number.text`: a number as JSON.
* **`Value.text`**: a value as JSON.
-/

namespace Folio.Json

/-- A character inside a JSON text. -/
def escaped (c : Char) : List Char :=
  if c == '"' then ['\\', '"']
  else if c == '\\' then ['\\', '\\']
  else if c == '\x08' then ['\\', 'b']
  else if c == '\t' then ['\\', 't']
  else if c == '\n' then ['\\', 'n']
  else if c == '\x0c' then ['\\', 'f']
  else if c == '\r' then ['\\', 'r']
  else if c.toNat < 0x20 then
    let digits := Nat.toDigits 16 c.toNat
    ['\\', 'u'] ++ List.replicate (4 - digits.length) '0' ++ digits
  else [c]

/-- A text as JSON. -/
def quoted (text : String) : String :=
  String.ofList ('"' :: (text.toList.flatMap escaped ++ ['"']))

/-- A double as JSON: positional if its first digit stands between the fifth decimal place and the
sixteenth place before the point. -/
def floatText (x : Float) : String :=
  let sign := if x.toBits.toNat / Nat.pow 2 63 = 1 then "-" else ""
  let magnitude := x.abs
  if magnitude == 0.0 then sign ++ "0.0"
  else
    let (digits, exponent) := (Decimal.Dyadic.ofFloat magnitude).shortest
    let body :=
      if -5 ≤ exponent ∧ exponent ≤ 15 then Decimal.positional digits exponent
      else Decimal.scientific digits exponent
    sign ++ String.ofList body

/-- A number as JSON. -/
def Number.text : Number → String
  | .integer n => toString n
  | .float x => floatText x

mutual

/-- **A value as JSON.** -/
def Value.text : Value → String
  | .null => "null"
  | .bool b => if b then "true" else "false"
  | .number n => n.text
  | .string s => quoted s
  | .array items => "[" ++ itemsText items ++ "]"
  | .object members => String.singleton '{' ++ membersText members ++ String.singleton '}'

/-- The items of an array, with commas between them. -/
def itemsText : List Value → String
  | [] => ""
  | [item] => item.text
  | item :: rest => item.text ++ "," ++ itemsText rest

/-- The members of an object, with commas between them. -/
def membersText : List (String × Value) → String
  | [] => ""
  | [(key, value)] => quoted key ++ ":" ++ value.text
  | (key, value) :: rest => quoted key ++ ":" ++ value.text ++ "," ++ membersText rest

end

end Folio.Json
