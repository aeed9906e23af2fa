import Folio.Toml.Scalar
import Folio.Toml.Table
import Folio.Toml.Text

/-!
# Reading TOML

A document is read line by line: blank lines, comments, headers and lines `key = value`. Arrays and
inline tables nest at most `maxDepth` deep, and a key has at most so many parts.

* `readKey`: a key, with its parts between dots.
* `readValue`: a value of any kind.
* `readLine`: one line of a document.
* **`parse?`**: the value of a document, none if the text is no TOML.
-/

namespace Folio.Toml

open Json (Value)

/-- Arrays and inline tables nest at most this deep, and keys have at most so many parts. -/
def maxDepth : Nat := 79

/-- Drop blanks and tabs. -/
def skipBlanks (cs : List Char) : List Char :=
  cs.dropWhile fun c => c == ' ' || c == '\t'

/-- Drop a comment, up to the end of its line. -/
def skipComment (cs : List Char) : List Char :=
  match cs with
  | '#' :: rest => rest.dropWhile isPlain
  | _ => cs

/-- Drop blanks, line breaks and comments. -/
def skipSpace : Nat → List Char → List Char
  | 0, cs => cs
  | fuel + 1, cs =>
    let rest := skipComment (skipBlanks cs)
    match lineBreak? rest with
    | some rest => skipSpace fuel rest
    | none => rest

/-! ## Keys -/

/-- Characters of a key without quotes. -/
def isBare (c : Char) : Bool :=
  c.isAlphanum || c == '_' || c == '-'

/-- One part of a key. -/
def readPart (cs : List Char) : Option (String × List Char) :=
  match cs with
  | '"' :: rest => readBasic (rest.length + 1) [] rest
  | '\'' :: rest => readLiteral [] rest
  | _ =>
    let bare := cs.takeWhile isBare
    if bare.isEmpty then none else some (String.ofList bare, cs.drop bare.length)

/-- The parts of a key, with blanks around them. -/
def readParts : Nat → List Char → Option (List String × List Char)
  | 0, _ => none
  | fuel + 1, cs =>
    match readPart (skipBlanks cs) with
    | none => none
    | some (part, rest) =>
      match skipBlanks rest with
      | '.' :: rest => (readParts fuel rest).map fun (parts, rest) => (part :: parts, rest)
      | rest => some ([part], rest)

/-- A key: the path to its table, and its last part. -/
def readKey (cs : List Char) : Option ((List String × String) × List Char) := do
  let (parts, rest) ← readParts maxDepth cs
  let key ← splitLast parts
  return (key, rest)

/-! ## Values -/

mutual

/-- A value; `depth` more levels may be opened. -/
def readValue (depth : Nat) : Nat → List Char → Option (Value × List Char)
  | 0, _ => none
  | fuel + 1, cs =>
    match cs with
    | '"' :: _ => (readText cs).map fun (text, rest) => (.string text, rest)
    | '\'' :: _ => (readText cs).map fun (text, rest) => (.string text, rest)
    | '[' :: rest =>
      if depth = 0 then none
      else (readItems (depth - 1) fuel rest []).map fun (items, rest) => (.array items, rest)
    | '{' :: rest =>
      if depth = 0 then none
      else
        match skipBlanks rest with
        | '}' :: rest => some (.object [], rest)
        | rest =>
          (readMembers (depth - 1) fuel rest (.mk false false [])).map fun (t, rest) =>
            (t.toValue, rest)
    | _ => readScalar cs

/-- The items of an array after those in `done`, latest first; a comma may stand after the last. -/
def readItems (depth : Nat) : Nat → List Char → List Value → Option (List Value × List Char)
  | 0, _, _ => none
  | fuel + 1, cs, done =>
    match skipSpace cs.length cs with
    | ']' :: rest => some (done.reverse, rest)
    | rest =>
      match readValue depth fuel rest with
      | none => none
      | some (item, rest) =>
        match skipSpace rest.length rest with
        | ',' :: rest => readItems depth fuel rest (item :: done)
        | ']' :: rest => some ((item :: done).reverse, rest)
        | _ => none

/-- The members of an inline table that is not empty. -/
def readMembers (depth : Nat) : Nat → List Char → Table → Option (Table × List Char)
  | 0, _, _ => none
  | fuel + 1, cs, t =>
    match readKey cs with
    | some ((path, key), '=' :: rest) =>
      match readValue depth fuel (skipBlanks rest) with
      | none => none
      | some (value, rest) =>
        match insertInline path key value t with
        | none => none
        | some t =>
          match skipBlanks rest with
          | ',' :: rest => readMembers depth fuel rest t
          | '}' :: rest => some (t, rest)
          | _ => none
    | _ => none

end

/-! ## Documents -/

/-- Nothing but blanks and a comment may follow on a line; the rest after the line. -/
def endLine (cs : List Char) : Option (List Char) :=
  match skipComment (skipBlanks cs) with
  | [] => some []
  | rest => lineBreak? rest

/-- A header after its opening bracket or brackets. -/
def readHeader (closing : List Char) (cs : List Char) : Option (List String × List Char) := do
  let (parts, rest) ← readParts maxDepth cs
  if closing.isPrefixOf rest then some (parts, rest.drop closing.length) else none

/-- One line, and the rest after it. -/
def readLine (d : Document) (cs : List Char) : Option (Document × List Char) :=
  match skipBlanks cs with
  | [] => some (d, [])
  | '[' :: '[' :: rest => do
    let (path, rest) ← readHeader [']', ']'] rest
    let d ← d.openItem path
    return (d, ← endLine rest)
  | '[' :: rest => do
    let (path, rest) ← readHeader [']'] rest
    let d ← d.openTable path
    return (d, ← endLine rest)
  | rest =>
    match endLine rest with
    | some rest => some (d, rest)
    | none =>
      match readKey rest with
      | some ((path, key), '=' :: rest) => do
        let (value, rest) ← readValue maxDepth (2 * rest.length + 2) (skipBlanks rest)
        let d ← d.setKey path key value
        return (d, ← endLine rest)
      | _ => none

/-- All lines. -/
def readLinesOf : Nat → Document → List Char → Option Document
  | 0, d, _ => some d
  | fuel + 1, d, cs =>
    if cs.isEmpty then some d
    else
      match readLine d cs with
      | none => none
      | some (d, rest) => readLinesOf fuel d rest

/-- **The value of a document**, none if the text is no TOML. A byte order mark is skipped. -/
def parse? (text : String) : Option Value :=
  let cs := text.toList
  let cs := if cs.head? = some '\uFEFF' then cs.drop 1 else cs
  (readLinesOf (cs.length + 1) {} cs).bind Document.result

end Folio.Toml
