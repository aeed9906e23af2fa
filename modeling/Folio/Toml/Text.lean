import Folio.Text.Hexadecimal

/-!
# TOML texts

Four kinds of quotes: basic and literal texts on one line, and both in triple quotes over several.
Literal texts know no escapes. A line break in a triple-quoted text counts as one line feed, and one
right after the opening quotes is dropped; in a basic one, a backslash at the end of a line drops
all blanks and line breaks that follow.

* `isPlain`: the characters that may stand in a text or a comment.
* `lineBreak?`: the rest after a line break.
* **`readText`**: a text of any kind.
-/

namespace Folio.Toml

/-- Characters that may stand unescaped in a text or a comment: no controls but the tab. -/
def isPlain (c : Char) : Bool :=
  c == '\t' || (0x20 ≤ c.toNat && c.toNat ≠ 0x7F)

/-- What follows a line feed, alone or after a carriage return. -/
def lineBreak? : List Char → Option (List Char)
  | '\n' :: rest => some rest
  | '\r' :: '\n' :: rest => some rest
  | _ => none

/-- The character of hexadecimal digits, if they are all there and name a scalar value. -/
def scalarOfHex? (count : Nat) (cs : List Char) : Option Char :=
  let digits := cs.take count
  let ok := digits.length = count && digits.all fun c =>
    c.isDigit || ('a' ≤ c && c ≤ 'f') || ('A' ≤ c && c ≤ 'F')
  let n := hexNat digits
  if ok && decide n.isValidChar then some (Char.ofNat n) else none

/-- The character of an escape and what follows it; the backslash has been read. -/
def readEscape : List Char → Option (Char × List Char)
  | 'b' :: rest => some ('\x08', rest)
  | 't' :: rest => some ('\t', rest)
  | 'n' :: rest => some ('\n', rest)
  | 'f' :: rest => some ('\x0c', rest)
  | 'r' :: rest => some ('\r', rest)
  | '"' :: rest => some ('"', rest)
  | '\\' :: rest => some ('\\', rest)
  | 'u' :: rest => (scalarOfHex? 4 rest).map fun c => (c, rest.drop 4)
  | 'U' :: rest => (scalarOfHex? 8 rest).map fun c => (c, rest.drop 8)
  | _ => none

/-- A basic text up to its closing quote; `done` holds what has been read, latest first. -/
def readBasic : Nat → List Char → List Char → Option (String × List Char)
  | 0, _, _ => none
  | fuel + 1, done, cs =>
    match cs with
    | [] => none
    | '"' :: rest => some (String.ofList done.reverse, rest)
    | '\\' :: rest =>
      match readEscape rest with
      | none => none
      | some (c, rest) => readBasic fuel (c :: done) rest
    | c :: rest => if isPlain c then readBasic fuel (c :: done) rest else none

/-- A literal text up to its closing quote. -/
def readLiteral (done : List Char) : List Char → Option (String × List Char)
  | [] => none
  | '\'' :: rest => some (String.ofList done.reverse, rest)
  | c :: rest => if isPlain c then readLiteral (c :: done) rest else none

/-- Blanks and line breaks. -/
def skipBreaks : Nat → List Char → List Char
  | 0, cs => cs
  | fuel + 1, cs =>
    match cs with
    | ' ' :: rest => skipBreaks fuel rest
    | '\t' :: rest => skipBreaks fuel rest
    | _ =>
      match lineBreak? cs with
      | some rest => skipBreaks fuel rest
      | none => cs

/-- What follows a backslash that ends its line. -/
def joinedLine? (cs : List Char) : Option (List Char) :=
  let rest := cs.dropWhile fun c => c == ' ' || c == '\t'
  (lineBreak? rest).map fun rest => skipBreaks rest.length rest

/-- A triple-quoted text of either kind. Up to two more quotes may stand before the closing ones. -/
def readLines (quote : Char) (escapes : Bool) :
    Nat → List Char → List Char → Option (String × List Char)
  | 0, _, _ => none
  | fuel + 1, done, cs =>
    let quotes := cs.takeWhile (· == quote)
    if quotes.length ≥ 3 then
      let kept := min (quotes.length - 3) 2
      some (String.ofList ((quotes.take kept ++ done).reverse), cs.drop (kept + 3))
    else
      match lineBreak? cs with
      | some rest => readLines quote escapes fuel ('\n' :: done) rest
      | none =>
        match cs with
        | [] => none
        | c :: rest =>
          if escapes && c == '\\' then
            match joinedLine? rest with
            | some rest => readLines quote escapes fuel done rest
            | none =>
              match readEscape rest with
              | none => none
              | some (e, rest) => readLines quote escapes fuel (e :: done) rest
          else if isPlain c then readLines quote escapes fuel (c :: done) rest
          else none

/-- A triple-quoted text after its opening quotes. -/
def readLinesFrom (quote : Char) (escapes : Bool) (cs : List Char) : Option (String × List Char) :=
  let body := (lineBreak? cs).getD cs
  readLines quote escapes (body.length + 1) [] body

/-- **A text of any kind.** -/
def readText : List Char → Option (String × List Char)
  | '"' :: '"' :: '"' :: rest => readLinesFrom '"' true rest
  | '"' :: rest => readBasic (rest.length + 1) [] rest
  | '\'' :: '\'' :: '\'' :: rest => readLinesFrom '\'' false rest
  | '\'' :: rest => readLiteral [] rest
  | _ => none

end Folio.Toml
