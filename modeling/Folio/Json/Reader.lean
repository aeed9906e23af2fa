import Folio.Json.Value
import Folio.Text.Hexadecimal

/-!
# Reading JSON

The reader takes the strict grammar: one value, blanks around it, nothing after it. Arrays and
objects nest at most `maxDepth` deep. A number without fraction and exponent is an integer if it
fits 64 bits; any other is a double, computed from at most the leading digits that fit 64 bits.

* `readString`: the text after an opening quote.
* `readNumber`: a number.
* **`Value.parse?`**: the value of a text.
-/

namespace Folio.Json

/-- Arrays and objects nest at most this deep. -/
def maxDepth : Nat := 127

/-- Drop the blanks of JSON. -/
def skipBlanks (cs : List Char) : List Char :=
  cs.dropWhile fun c => c == ' ' || c == '\n' || c == '\t' || c == '\r'

/-! ## Texts -/

/-- The value of four hexadecimal digits. -/
def hexUnit? (a b c d : Char) : Option Nat :=
  if [a, b, c, d].all fun x => x.isDigit || ('a' ≤ x && x ≤ 'f') || ('A' ≤ x && x ≤ 'F') then
    some (hexNat [a, b, c, d])
  else none

/-- The character that a letter after a backslash stands for. -/
def simpleEscape? (c : Char) : Option Char :=
  if c == '"' || c == '\\' || c == '/' then some c
  else if c == 'b' then some '\x08'
  else if c == 'f' then some '\x0c'
  else if c == 'n' then some '\n'
  else if c == 'r' then some '\r'
  else if c == 't' then some '\t'
  else none

/-- The character of a high and a low surrogate. -/
def ofSurrogates (high low : Nat) : Char :=
  Char.ofNat (0x10000 + (high - 0xD800) * 0x400 + (low - 0xDC00))

/-- The text up to the closing quote; `done` holds what has been read, latest first. -/
def readString (done : List Char) : List Char → Option (String × List Char)
  | [] => none
  | '"' :: rest => some (String.ofList done.reverse, rest)
  | '\\' :: 'u' :: a :: b :: c :: d :: rest =>
    match hexUnit? a b c d with
    | none => none
    | some unit =>
      if 0xD800 ≤ unit ∧ unit < 0xDC00 then
        match rest with
        | '\\' :: 'u' :: a' :: b' :: c' :: d' :: rest' =>
          match hexUnit? a' b' c' d' with
          | none => none
          | some low =>
            if 0xDC00 ≤ low ∧ low < 0xE000 then readString (ofSurrogates unit low :: done) rest'
            else none
        | _ => none
      else if 0xDC00 ≤ unit ∧ unit < 0xE000 then none
      else readString (Char.ofNat unit :: done) rest
  | '\\' :: c :: rest =>
    match simpleEscape? c with
    | none => none
    | some e => readString (e :: done) rest
  | c :: rest => if c.toNat < 0x20 || c == '\\' then none else readString (c :: done) rest

/-! ## Numbers -/

/-- The value of a decimal digit. -/
def digitValue (c : Char) : Nat :=
  c.toNat - '0'.toNat

/-- Take digits as long as the value fits 64 bits: the value, the number of digits taken, and the
rest. -/
def takeDigits (value taken : Nat) : List Char → Nat × Nat × List Char
  | [] => (value, taken, [])
  | c :: rest =>
    if c.isDigit ∧ value * 10 + digitValue c < Nat.pow 2 64 then
      takeDigits (value * 10 + digitValue c) (taken + 1) rest
    else (value, taken, c :: rest)

/-- A power of ten as a double. -/
def tenPower (n : Nat) : Float :=
  Float.ofScientific 1 false n

/-- Divide by powers of ten of at most 308. -/
def scaleDown (fuel : Nat) (x : Float) (n : Nat) : Float :=
  match fuel with
  | 0 => x
  | fuel + 1 =>
    if n ≤ 308 then x / tenPower n
    else if x == 0.0 then x
    else scaleDown fuel (x / tenPower 308) (n - 308)

/-- `significand · 10^exponent` as a double; none if that is out of range. -/
def assemble? (significand : Nat) (exponent : Int) : Option Float :=
  let x := significand.toUInt64.toFloat
  if exponent < 0 then some (scaleDown (exponent.natAbs / 308 + 1) x exponent.natAbs)
  else if x == 0.0 then some x
  else if exponent > 308 then none
  else
    let y := x * tenPower exponent.toNat
    if y.isInf then none else some y

/-- The sign and the digits of an exponent. -/
def readExponent (cs : List Char) : Option (Int × List Char) :=
  let (sign, cs) : Int × List Char :=
    match cs with
    | '+' :: rest => (1, rest)
    | '-' :: rest => (-1, rest)
    | _ => (1, cs)
  let digits := cs.takeWhile Char.isDigit
  if digits.isEmpty then none
  else
    let n := digits.foldl (fun n c => n * 10 + digitValue c) 0
    some (sign * n, cs.drop digits.length)

/-- Finish a double after its digits: an exponent may follow. -/
def finishFloat (negative : Bool) (significand : Nat) (exponent : Int) (cs : List Char) :
    Option (Number × List Char) :=
  let signed (x : Float) : Number := .float (if negative then -x else x)
  match cs with
  | c :: rest =>
    if c == 'e' || c == 'E' then
      match readExponent rest with
      | none => none
      | some (e, rest) => (assemble? significand (exponent + e)).map fun x => (signed x, rest)
    else (assemble? significand exponent).map fun x => (signed x, cs)
  | [] => (assemble? significand exponent).map fun x => (signed x, cs)

/-- A number whose integer part has the value `significand`, with `dropped` further digits that did
not fit. -/
def readFraction (negative : Bool) (significand dropped : Nat) (cs : List Char) :
    Option (Number × List Char) :=
  match cs with
  | '.' :: rest =>
    let digits := rest.takeWhile Char.isDigit
    if digits.isEmpty then none
    else
      let (value, taken, _) := takeDigits significand 0 digits
      finishFloat negative value ((dropped : Int) - taken) (rest.drop digits.length)
  | _ => finishFloat negative significand dropped cs

/-- A number after its sign. -/
def readUnsigned (negative : Bool) (cs : List Char) : Option (Number × List Char) :=
  let digits := cs.takeWhile Char.isDigit
  let rest := cs.drop digits.length
  match digits with
  | [] => none
  | '0' :: _ :: _ => none
  | _ =>
    let (value, taken, _) := takeDigits 0 0 digits
    let plain := taken = digits.length && match rest with
      | c :: _ => !(c == '.' || c == 'e' || c == 'E')
      | [] => true
    if plain && !negative then some (.integer value, rest)
    else if plain && 0 < value && value ≤ Nat.pow 2 63 then some (.integer (-(value : Int)), rest)
    else readFraction negative value (digits.length - taken) rest

/-- A number. -/
def readNumber (cs : List Char) : Option (Number × List Char) :=
  match cs with
  | '-' :: rest => readUnsigned true rest
  | _ => readUnsigned false cs

/-! ## Values -/

mutual

/-- A value, after blanks; `depth` more levels may be opened. -/
def readValue (depth : Nat) : Nat → List Char → Option (Value × List Char)
  | 0, _ => none
  | fuel + 1, cs =>
    match skipBlanks cs with
    | 'n' :: 'u' :: 'l' :: 'l' :: rest => some (.null, rest)
    | 't' :: 'r' :: 'u' :: 'e' :: rest => some (.bool true, rest)
    | 'f' :: 'a' :: 'l' :: 's' :: 'e' :: rest => some (.bool false, rest)
    | '"' :: rest => (readString [] rest).map fun (s, rest) => (.string s, rest)
    | '[' :: rest =>
      if depth = 0 then none
      else
        match skipBlanks rest with
        | ']' :: rest => some (.array [], rest)
        | rest => (readItems (depth - 1) fuel rest []).map fun (items, rest) => (.array items, rest)
    | '{' :: rest =>
      if depth = 0 then none
      else
        match skipBlanks rest with
        | '}' :: rest => some (.object [], rest)
        | rest =>
          (readMembers (depth - 1) fuel rest []).map fun (members, rest) => (.object members, rest)
    | rest => (readNumber rest).map fun (n, rest) => (.number n, rest)

/-- The items of an array that is not empty, after those in `done`, latest first. -/
def readItems (depth : Nat) : Nat → List Char → List Value → Option (List Value × List Char)
  | 0, _, _ => none
  | fuel + 1, cs, done =>
    match readValue depth fuel cs with
    | none => none
    | some (item, rest) =>
      match skipBlanks rest with
      | ',' :: rest => readItems depth fuel rest (item :: done)
      | ']' :: rest => some ((item :: done).reverse, rest)
      | _ => none

/-- The members of an object that is not empty, added to those in `done`. -/
def readMembers (depth : Nat) :
    Nat → List Char → List (String × Value) → Option (List (String × Value) × List Char)
  | 0, _, _ => none
  | fuel + 1, cs, done =>
    match skipBlanks cs with
    | '"' :: rest =>
      match readString [] rest with
      | none => none
      | some (key, rest) =>
        match skipBlanks rest with
        | ':' :: rest =>
          match readValue depth fuel rest with
          | none => none
          | some (value, rest) =>
            match skipBlanks rest with
            | ',' :: rest => readMembers depth fuel rest (insertMember key value done)
            | '}' :: rest => some (insertMember key value done, rest)
            | _ => none
        | _ => none
    | _ => none

end

/-- **The value of a text**, none if the text is no JSON. -/
def Value.parse? (text : String) : Option Value :=
  let cs := text.toList
  match readValue maxDepth (2 * cs.length + 2) cs with
  | some (value, rest) => if (skipBlanks rest).isEmpty then some value else none
  | none => none

end Folio.Json
