import Folio.Pattern.Syntax
import Folio.Text.Blank

/-!
# Escapes

What may follow a backslash in a regular expression, inside and outside brackets.

* `Flags`: the modes that an expression is read in.
* `Primitive`: a character, a set of characters or a condition.
* **`readEscape`**: the primitive after a backslash.
-/

namespace Folio.Pattern

open Unicode (CharSet)

/-- The modes that an expression is read in. -/
structure Flags where
  ignoreCase : Bool := false
  /-- The anchors hold at every line. -/
  multiLine : Bool := false
  /-- The dot stands for line feeds too. -/
  dotAll : Bool := false
  /-- Loops are lazy, and greedy with a question mark. -/
  swapGreed : Bool := false
  /-- Sets and cases are those of all characters, not of ASCII alone. -/
  unicode : Bool := true
  /-- Blanks and comments are passed over. -/
  verbose : Bool := false
  /-- Carriage returns end lines too. -/
  returns : Bool := false
  deriving DecidableEq, Inhabited, Repr

/-- The smallest parts of an expression. -/
inductive Primitive
  | char (c : Char)
  | set (set : CharSet)
  | look (look : Look)
  deriving DecidableEq, Inhabited, Repr

/-- Drop blanks and comments, from within a comment if `inComment`. A comment ends with its line. -/
def skipComments (inComment : Bool) : List Char → List Char
  | [] => []
  | c :: rest =>
    if inComment then skipComments (c != '\n') rest
    else if c == '#' then skipComments true rest
    else if isBlank c then skipComments false rest
    else c :: rest

/-- Drop what a verbose expression passes over. -/
def skipSpace (flags : Flags) (cs : List Char) : List Char :=
  if flags.verbose then skipComments false cs else cs

/-- Characters with a meaning of their own. -/
def isMeta (c : Char) : Bool :=
  ['\\', '.', '+', '*', '?', '(', ')', '|', '[', ']', '{', '}', '^', '$', '#', '&', '-',
    '~'].contains c

/-- Characters that stand for themselves after a backslash. -/
def isEscapable (c : Char) : Bool :=
  isMeta c || (c.toNat < 0x80 && !c.isAlphanum && c != '<' && c != '>')

def isHex (c : Char) : Bool :=
  c.isDigit || ('a' ≤ c && c ≤ 'f') || ('A' ≤ c && c ≤ 'F')

/-- The scalar value of hexadecimal digits. -/
def scalarOfHex? (digits : List Char) : Option Char :=
  let n := hexNat digits
  if digits.isEmpty || digits.length > 8 && n ≥ Nat.pow 2 32 then none
  else if n.isValidChar then some (Char.ofNat n)
  else none

/-- A fixed number of hexadecimal digits. -/
def readHexDigits (flags : Flags) : Nat → List Char → Option (List Char × List Char)
  | 0, cs => some ([], cs)
  | n + 1, cs =>
    match skipSpace flags cs with
    | c :: rest =>
      if isHex c then
        (readHexDigits flags n rest).map fun (digits, rest) => (c :: digits, rest)
      else none
    | [] => none

/-- Hexadecimal digits up to a closing brace. -/
def readHexBraced (flags : Flags) : Nat → List Char → Option (List Char × List Char)
  | 0, _ => none
  | fuel + 1, cs =>
    match skipSpace flags cs with
    | '}' :: rest => some ([], rest)
    | c :: rest =>
      if isHex c then
        (readHexBraced flags fuel rest).map fun (digits, rest) => (c :: digits, rest)
      else none
    | [] => none

/-- The character after the letter of a hexadecimal escape. Two digits without braces stand for a
byte where characters are those of ASCII, and a byte beyond ASCII is no character. -/
def readHex (flags : Flags) (count : Nat) (cs : List Char) : Option (Char × List Char) := do
  match skipSpace flags cs with
  | '{' :: rest =>
    let (digits, rest) ← readHexBraced flags (rest.length + 1) rest
    return (← scalarOfHex? digits, rest)
  | rest =>
    let (digits, rest) ← readHexDigits flags count rest
    let c ← scalarOfHex? digits
    if !flags.unicode && count = 2 && 0x80 ≤ c.toNat then none else return (c, rest)

/-- Characters up to a closing brace. -/
def readBraced (flags : Flags) : Nat → List Char → Option (List Char × List Char)
  | 0, _ => none
  | fuel + 1, cs =>
    match skipSpace flags cs with
    | '}' :: rest => some ([], rest)
    | c :: rest => (readBraced flags fuel rest).map fun (name, rest) => (c :: name, rest)
    | [] => none

/-- Split a text at the first place where `mark` stands. -/
def splitAtMark (mark : List Char) : List Char → Option (List Char × List Char)
  | [] => none
  | c :: rest =>
    if mark.isPrefixOf (c :: rest) then some ([], (c :: rest).drop mark.length)
    else (splitAtMark mark rest).map fun (front, back) => (c :: front, back)

/-- The set of a property as written between braces, and whether what is meant is the rest of the
characters. -/
def propertySet? (name : List Char) : Option (CharSet × Bool) :=
  match splitAtMark ['!', '='] name with
  | some (name, value) =>
    (Unicode.valued? (String.ofList name) (String.ofList value)).map fun set => (set, true)
  | none =>
    match (splitAtMark [':'] name).or (splitAtMark ['='] name) with
    | some (name, value) =>
      (Unicode.valued? (String.ofList name) (String.ofList value)).map fun set => (set, false)
    | none => (Unicode.named? (String.ofList name)).map fun set => (set, false)

/-- The set after the letter of a property escape, and whether what is meant is the rest of the
characters. -/
def readProperty (flags : Flags) (cs : List Char) : Option ((CharSet × Bool) × List Char) :=
  if !flags.unicode then none
  else
    match skipSpace flags cs with
    | '{' :: rest => do
      let (name, rest) ← readBraced flags (rest.length + 1) rest
      return (← propertySet? name, rest)
    | c :: rest =>
      if c == '\\' then none
      else (Unicode.named? (String.singleton c)).map fun set => ((set, false), rest)
    | [] => none

/-- A set closed under case, if the mode asks for that. -/
def Flags.close (flags : Flags) (set : CharSet) : CharSet :=
  if !flags.ignoreCase then set
  else if flags.unicode then set.folded
  else foldAscii set

/-- The set of a character closed under case, if the mode asks for that. -/
def Flags.closeChar (flags : Flags) (c : Char) : CharSet :=
  if !flags.ignoreCase then CharSet.single c
  else if flags.unicode then CharSet.ofChars (Unicode.caseVariants c)
  else foldAscii (CharSet.single c)

/-- The complement of a set; it holds more than characters where sets are those of ASCII. -/
def Flags.complement? (flags : Flags) (set : CharSet) : Option CharSet :=
  if flags.unicode then some set.compl else none

/-- The set of one of the letters `d`, `s`, `w` after a backslash, negated for a capital. -/
def shorthand? (flags : Flags) (c : Char) : Option (Option CharSet) :=
  let pick (set ascii : CharSet) : CharSet := if flags.unicode then set else ascii
  match c with
  | 'd' => some (some (pick digitChars asciiDigits))
  | 's' => some (some (pick spaceChars asciiSpaces))
  | 'w' => some (some (pick wordChars asciiWordChars))
  | 'D' => some (flags.complement? (pick digitChars asciiDigits))
  | 'S' => some (flags.complement? (pick spaceChars asciiSpaces))
  | 'W' => some (flags.complement? (pick wordChars asciiWordChars))
  | _ => none

/-- The special characters with a letter of their own. -/
def controlOf? (c : Char) : Option Char :=
  match c with
  | 'a' => some '\x07'
  | 'f' => some '\x0c'
  | 't' => some '\t'
  | 'n' => some '\n'
  | 'r' => some '\r'
  | 'v' => some '\x0b'
  | _ => none

/-- What a condition on words asks, by the name it has between braces. -/
def edgeNamed? (name : String) : Option WordEdge :=
  match name with
  | "start" => some .start
  | "end" => some .stop
  | "start-half" => some .startHalf
  | "end-half" => some .stopHalf
  | _ => none

/-- The letters of a name between braces, and what follows them. -/
def readBoundaryName (flags : Flags) : Nat → List Char → List Char × List Char
  | 0, cs => ([], cs)
  | fuel + 1, cs =>
    match cs with
    | c :: rest =>
      if c.isAlpha || c == '-' then
        let (name, rest) := readBoundaryName flags fuel (skipSpace flags rest)
        (c :: name, rest)
      else ([], cs)
    | [] => ([], [])

/-- The condition after `\b`: a name between braces may say which one is meant. -/
def readBoundary (flags : Flags) (cs : List Char) : Option (Look × List Char) :=
  match cs with
  | '{' :: rest =>
    let inside := skipSpace flags rest
    match inside with
    | [] => none
    | c :: _ =>
      if c.isAlpha || c == '-' then
        match readBoundaryName flags (inside.length + 1) inside with
        | (name, '}' :: rest) =>
          (edgeNamed? (String.ofList name)).map fun edge => (.word edge flags.unicode, rest)
        | _ => none
      else some (.word .boundary flags.unicode, cs)
  | _ => some (.word .boundary flags.unicode, cs)

/-- **The primitive after a backslash.** -/
def readEscape (flags : Flags) (cs : List Char) : Option (Primitive × List Char) :=
  match cs with
  | [] => none
  | c :: rest =>
    let hex (count : Nat) :=
      (readHex flags count rest).map fun (c, rest) => (Primitive.char c, rest)
    if c.isDigit then none
    else if c == 'x' then hex 2
    else if c == 'u' then hex 4
    else if c == 'U' then hex 8
    else if c == 'p' || c == 'P' then
      (readProperty flags rest).map fun ((set, others), rest) =>
        let set := flags.close set
        (.set (if (c == 'P') != others then set.compl else set), rest)
    else
      match shorthand? flags c with
      | some set => set.map fun set => (.set set, rest)
      | none =>
        if isEscapable c then some (.char c, rest)
        else
          match controlOf? c with
          | some c => some (.char c, rest)
          | none =>
            match c with
            | 'A' => some (.look .textStart, rest)
            | 'z' => some (.look .textEnd, rest)
            | 'b' => (readBoundary flags rest).map fun (look, rest) => (.look look, rest)
            | 'B' => some (.look (.word .noBoundary flags.unicode), rest)
            | '<' => some (.look (.word .start flags.unicode), rest)
            | '>' => some (.look (.word .stop flags.unicode), rest)
            | _ => none

end Folio.Pattern
