import Folio.Json.Value
import Folio.Text.Hexadecimal

/-!
# TOML numbers, dates and truth values

* `readDigits`: digits with single underscores between them.
* `readInteger`, `readFloat`: the two kinds of numbers.
* `readDate`, `readTime`, `readDateTime`: dates and times. A date is kept as text under the key
  `dateKey`.
* **`readScalar`**: a number, date or truth value.
-/

namespace Folio.Toml

open Json (Value)

/-! ## Numbers -/

/-- Digits that satisfy `digit`, with single underscores between them; the digits alone. -/
def readDigits (digit : Char → Bool) : List Char → Option (List Char × List Char)
  | [] => none
  | c :: rest => if digit c then some (more c rest) else none
where
  /-- The digits from `c` on, with what follows them. -/
  more (c : Char) : List Char → List Char × List Char
    | '_' :: d :: rest =>
      if digit d then
        let (digits, rest) := more d rest
        (c :: digits, rest)
      else ([c], '_' :: d :: rest)
    | d :: rest =>
      if digit d then
        let (digits, rest) := more d rest
        (c :: digits, rest)
      else ([c], d :: rest)
    | [] => ([c], [])

/-- The value of digits in a base. -/
def valueOf (base : Nat) (digits : List Char) : Nat :=
  digits.foldl (fun n c => n * base + hexDigit c) 0

def isHexDigit (c : Char) : Bool :=
  c.isDigit || ('a' ≤ c && c ≤ 'f') || ('A' ≤ c && c ≤ 'F')

/-- A sign, and what follows it. -/
def readSign : List Char → Int × List Char
  | '+' :: rest => (1, rest)
  | '-' :: rest => (-1, rest)
  | cs => (1, cs)

/-- Decimal digits that do not begin with a needless zero. -/
def readDecimal (cs : List Char) : Option (List Char × List Char) :=
  match cs with
  | '0' :: rest => some (['0'], rest)
  | _ => readDigits Char.isDigit cs

/-- An integer of 64 bits. -/
def inRange (n : Int) : Option Value :=
  if -9223372036854775808 ≤ n ∧ n ≤ 9223372036854775807 then some (.number (.integer n)) else none

/-- An integer in a base other than ten, after its mark. -/
def readBased (base : Nat) (digit : Char → Bool) (cs : List Char) : Option (Value × List Char) := do
  let (digits, rest) ← readDigits digit cs
  let v ← inRange (valueOf base digits)
  return (v, rest)

/-- An integer. -/
def readInteger (cs : List Char) : Option (Value × List Char) :=
  match cs with
  | '0' :: 'x' :: rest => readBased 16 isHexDigit rest
  | '0' :: 'o' :: rest => readBased 8 (fun c => '0' ≤ c && c ≤ '7') rest
  | '0' :: 'b' :: rest => readBased 2 (fun c => c == '0' || c == '1') rest
  | _ => do
    let (sign, rest) := readSign cs
    let (digits, rest) ← readDecimal rest
    let v ← inRange (sign * valueOf 10 digits)
    return (v, rest)

/-- An exponent; its digits may begin with zeros. -/
def readPower (cs : List Char) : Option (Int × List Char) :=
  match cs with
  | c :: rest =>
    if c == 'e' || c == 'E' then do
      let (sign, rest) := readSign rest
      let (digits, rest) ← readDigits Char.isDigit rest
      return (sign * valueOf 10 digits, rest)
    else none
  | [] => none

/-- `digits · 10^exponent` as a double; only below zero may it be out of range. -/
def doubleOf? (negative : Bool) (digits : List Char) (exponent : Int) : Option Value :=
  let n := valueOf 10 digits
  let bounded := if exponent > 400 + digits.length then 400 + (digits.length : Int)
    else if exponent < -(800 + (digits.length : Int)) then -(800 + (digits.length : Int))
    else exponent
  let x := Float.ofScientific n (bounded < 0) bounded.natAbs
  if x.isInf && !negative then none else some (.number (.float (if negative then -x else x)))

/-- A number with a fraction, an exponent or both; or an infinity; or not a number. -/
def readFloat (cs : List Char) : Option (Value × List Char) :=
  let (sign, rest) := readSign cs
  match rest with
  | 'i' :: 'n' :: 'f' :: rest => some (.number (.float (Float.ofInt sign / 0.0)), rest)
  | 'n' :: 'a' :: 'n' :: rest => some (.number (.float (0.0 / 0.0)), rest)
  | _ => do
    let (whole, rest) ← readDecimal rest
    match rest with
    | '.' :: rest =>
      let (fraction, rest) ← readDigits Char.isDigit rest
      let shift : Int := -(fraction.length : Int)
      match readPower rest with
      | some (power, rest) =>
        (doubleOf? (sign < 0) (whole ++ fraction) (shift + power)).map fun v => (v, rest)
      | none => (doubleOf? (sign < 0) (whole ++ fraction) shift).map fun v => (v, rest)
    | _ =>
      let (power, rest) ← readPower rest
      (doubleOf? (sign < 0) whole power).map fun v => (v, rest)

/-! ## Dates and times -/

/-- The key under which a date is kept. -/
def dateKey : String := "$__toml_private_datetime"

/-- Exactly `count` digits whose value lies between `low` and `high`. -/
def readField (count low high : Nat) (cs : List Char) : Option (Nat × List Char) :=
  let digits := cs.take count
  let n := valueOf 10 digits
  if digits.length = count ∧ digits.all Char.isDigit ∧ low ≤ n ∧ n ≤ high then
    some (n, cs.drop count)
  else none

/-- The character `c`. -/
def readMark (c : Char) : List Char → Option (List Char)
  | [] => none
  | d :: rest => if c = d then some rest else none

/-- The number of days in a month. -/
def daysIn (year month : Nat) : Nat :=
  if month = 2 then
    if (year % 4 = 0 ∧ year % 100 ≠ 0) ∨ year % 400 = 0 then 29 else 28
  else if month = 4 ∨ month = 6 ∨ month = 9 ∨ month = 11 then 30
  else 31

/-- A date: what follows it. -/
def readDate (cs : List Char) : Option (List Char) := do
  let (year, cs) ← readField 4 0 9999 cs
  let cs ← readMark '-' cs
  let (month, cs) ← readField 2 1 12 cs
  let cs ← readMark '-' cs
  let (_, cs) ← readField 2 1 (daysIn year month) cs
  return cs

/-- A time of day: what follows it. -/
def readTime (cs : List Char) : Option (List Char) := do
  let (_, cs) ← readField 2 0 23 cs
  let cs ← readMark ':' cs
  let (_, cs) ← readField 2 0 59 cs
  let cs ← readMark ':' cs
  let (_, cs) ← readField 2 0 60 cs
  match cs with
  | '.' :: rest =>
    let digits := rest.takeWhile Char.isDigit
    if digits.isEmpty then none else some (rest.drop digits.length)
  | _ => some cs

/-- A distance from universal time: what follows it. -/
def readOffset (cs : List Char) : Option (List Char) :=
  match cs with
  | 'Z' :: rest => some rest
  | 'z' :: rest => some rest
  | c :: rest =>
    if c == '+' || c == '-' then do
      let (_, rest) ← readField 2 0 23 rest
      let rest ← readMark ':' rest
      let (_, rest) ← readField 2 0 59 rest
      return rest
    else none
  | [] => none

/-- A date, a time, or a date with a time and perhaps an offset: what follows it. -/
def readDateTime (cs : List Char) : Option (List Char) :=
  match readDate cs with
  | none => readTime cs
  | some rest =>
    match rest with
    | c :: more =>
      if c == 'T' || c == 't' || c == ' ' then
        match readTime more with
        | some rest => some ((readOffset rest).getD rest)
        | none => some rest
      else some rest
    | [] => some rest

/-! ## Scalars -/

/-- **A number, date or truth value.** -/
def readScalar (cs : List Char) : Option (Value × List Char) :=
  match cs with
  | 't' :: 'r' :: 'u' :: 'e' :: rest => some (.bool true, rest)
  | 'f' :: 'a' :: 'l' :: 's' :: 'e' :: rest => some (.bool false, rest)
  | _ =>
    match readDateTime cs with
    | some rest =>
      let text := String.ofList (cs.take (cs.length - rest.length))
      some (.object [(dateKey, .string text)], rest)
    | none => (readFloat cs).or (readInteger cs)

end Folio.Toml
