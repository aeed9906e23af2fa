import Folio.Pattern.Bracket
import Folio.Pattern.Footprint

/-!
# Reading regular expressions

The grammar: alternatives between bars, each a row of items; an item is a character, a dot, an
anchor, an escape, a bracketed set or a group, with repetitions after it. Letters after `(?` set the
modes of the rest of the group, or of the group they open. There are no back-references and no
look-around.

* `Item`: an expression with its shape, and how deep it nests.
* `readFlags`, `readGroup`: what follows `(?` and `(`.
* **`readItems`**: alternatives up to the end of their group.
-/

namespace Folio.Pattern

open Unicode (CharSet)

/-! ## Groups and modes -/

/-- Set the mode of a letter. -/
def Flags.set? (flags : Flags) (letter : Char) (on : Bool) : Option Flags :=
  match letter with
  | 'i' => some { flags with ignoreCase := on }
  | 'm' => some { flags with multiLine := on }
  | 's' => some { flags with dotAll := on }
  | 'U' => some { flags with swapGreed := on }
  | 'u' => some { flags with unicode := on }
  | 'x' => some { flags with verbose := on }
  | 'R' => some { flags with returns := on }
  | _ => none

/-- The letters of modes up to a colon or a closing parenthesis, which is left to be read. A hyphen
turns the modes after it off; it must stand once, and before a letter, and no letter may be
repeated. The answer tells whether there were any letters. -/
def readFlags (flags : Flags) (off : Bool) (seen : List Char) (last : Option Char) :
    List Char → Option (Flags × Bool × List Char)
  | [] => none
  | c :: rest =>
    if c == ':' || c == ')' then
      if last = some '-' then none else some (flags, last.isSome, c :: rest)
    else if c == '-' then if off then none else readFlags flags true seen (some '-') rest
    else if seen.contains c then none
    else
      match flags.set? c !off with
      | none => none
      | some flags => readFlags flags off (c :: seen) (some c) rest

/-- May the character stand in the name of a group? -/
def isNameChar (first : Bool) (c : Char) : Bool :=
  if first then c == '_' || Unicode.isAlphabetic c
  else
    c == '_' || c == '.' || c == '[' || c == ']' || Unicode.isAlphabetic c || Unicode.isNumeric c

/-- The name of a group, up to its closing bracket. -/
def readName (cs : List Char) : Option (String × List Char) :=
  let name := cs.takeWhile (· != '>')
  match name, cs.drop name.length with
  | c :: more, '>' :: rest =>
    if isNameChar true c && more.all (isNameChar false) then some (String.ofList name, rest)
    else none
  | _, _ => none

/-- The kinds of groups. -/
inductive GroupKind
  /-- Modes for the rest of the enclosing group. -/
  | modes (flags : Flags)
  /-- A group that is not captured, with modes of its own. -/
  | plain (flags : Flags)
  | captured (name : Option String)

/-- What follows an opening parenthesis, up to where the body begins. -/
def readGroup (flags : Flags) (cs : List Char) : Option (GroupKind × List Char) :=
  let named (rest : List Char) :=
    (readName rest).map fun (name, rest) => (GroupKind.captured (some name), rest)
  match skipSpace flags cs with
  | '?' :: 'P' :: '<' :: rest => named rest
  | '?' :: '=' :: _ => none
  | '?' :: '!' :: _ => none
  | '?' :: '<' :: '=' :: _ => none
  | '?' :: '<' :: '!' :: _ => none
  | '?' :: '<' :: rest => named rest
  | '?' :: rest =>
    match readFlags flags false [] none rest with
    | some (flags, any, ')' :: rest) => if any then some (.modes flags, rest) else none
    | some (flags, _, ':' :: rest) => some (.plain flags, rest)
    | _ => none
  | rest => some (.captured none, rest)

/-! ## Repetitions -/

/-- Digits, and what a verbose expression passes over between them and after them. -/
def readDigits (verbose inComment : Bool) : List Char → List Char × List Char
  | [] => ([], [])
  | c :: rest =>
    if inComment then readDigits verbose (c != '\n') rest
    else if c.isDigit then
      let (digits, rest) := readDigits verbose false rest
      (c :: digits, rest)
    else if verbose && c == '#' then readDigits verbose true rest
    else if verbose && isBlank c then readDigits verbose false rest
    else ([], c :: rest)

/-- A number; blanks around it are passed over. -/
def readCount (flags : Flags) (cs : List Char) : Option (Option Nat × List Char) :=
  let (digits, rest) := readDigits flags.verbose false (cs.dropWhile isBlank)
  let rest := rest.dropWhile isBlank
  let n := digits.foldl (fun n c => n * 10 + (c.toNat - '0'.toNat)) 0
  if digits.isEmpty then some (none, rest)
  else if n < Nat.pow 2 32 then some (some n, rest)
  else none

/-- The bounds of a repetition after its opening brace. -/
def readBounds (flags : Flags) (cs : List Char) : Option ((Nat × Option Nat) × List Char) := do
  let (least, rest) ← readCount flags (skipSpace flags cs)
  let least ← least
  match rest with
  | ',' :: rest =>
    match skipSpace flags rest with
    | '}' :: rest => return ((least, none), rest)
    | rest =>
      let (most, rest) ← readCount flags rest
      let most ← most
      match rest with
      | '}' :: rest => if least ≤ most then return ((least, some most), rest) else none
      | _ => none
  | '}' :: rest => return ((least, some least), rest)
  | _ => none

/-! ## Items -/

/-- An expression, its shape, and how deep rows, alternatives, groups, repetitions and brackets nest
in it. -/
structure Item where
  node : Node
  shape : Shape
  depth : Nat := 0
  deriving Inhabited

namespace Item

/-- One character of a set. -/
def ofSet (set : CharSet) (depth : Nat := 0) : Item :=
  ⟨.one set, .ofSet set, depth⟩

def ofLook (look : Look) : Item :=
  ⟨.look look, .look look, 0⟩

/-- How deep several items nest, which count as one more level if there is more than one of them. -/
def depthOf (count : Nat) (items : List Item) : Nat :=
  let depth := (items.map Item.depth).foldl max 0
  if count > 1 then depth + 1 else depth

/-- Items in a row; `count` of them counts the changes of modes among them too. -/
def row (count : Nat) (items : List Item) : Item :=
  { node := Node.sequence (items.map Item.node), shape := Shape.row (items.map Item.shape),
    depth := depthOf count items }

/-- Alternatives. -/
def choice (items : List Item) : Item :=
  { node := Node.choice (items.map Item.node), shape := Shape.choice (items.map Item.shape),
    depth := depthOf items.length items }

/-- A repeated item. -/
def repeated (least : Nat) (most : Option Nat) (greedy : Bool) (item : Item) : Item :=
  let (least, most) := item.shape.bounds least most
  let node :=
    if most = some 0 then .empty
    else if least = 1 ∧ most = some 1 then item.node
    else .loop least most greedy item.node
  { node := node, shape := item.shape.repeated least most greedy, depth := item.depth + 1 }

/-- A captured group. -/
def captured (index : Nat) (name : Option String) (body : Item) : Item :=
  ⟨.group index name body.node, .group body.shape, body.depth + 1⟩

end Item

/-- A group while it is being read: the alternatives before the last bar, latest first, and the
items of the row after it, latest first. A change of modes is an item that cannot be repeated. -/
structure Level where
  flags : Flags
  choices : List Item := []
  row : List (Option Item) := []

/-- What is left to be read, the number of the next group and the names given so far. -/
structure Cursor where
  rest : List Char
  nextGroup : Nat := 1
  names : List String := []

namespace Level

/-- The row that is being read. -/
def current (level : Level) : Item :=
  Item.row level.row.length (level.row.reverse.filterMap id)

/-- The group as a whole. -/
def finish (level : Level) : Item :=
  Item.choice (level.current :: level.choices).reverse

/-- One more item. -/
def push (level : Level) (item : Item) : Level :=
  { level with row := some item :: level.row }

/-- Repeat the last item. -/
def repeatLast (level : Level) (least : Nat) (most : Option Nat) (lazy : Bool) : Option Level :=
  match level.row with
  | some item :: row =>
    some { level with
      row := some (item.repeated least most (lazy == level.flags.swapGreed)) :: row }
  | _ => none

end Level

/-- Is a repetition marked as lazy? -/
def readLazy (cs : List Char) : Bool × List Char :=
  match cs with
  | '?' :: rest => (true, rest)
  | rest => (false, rest)

/-- The dot. -/
def dotSet? (flags : Flags) : Option CharSet :=
  if !flags.unicode then none
  else if flags.dotAll then some CharSet.all
  else if flags.returns then some (CharSet.ofChars ['\n', '\r']).compl
  else some (CharSet.single '\n').compl

/-- The anchor of the beginning. -/
def startLook (flags : Flags) : Look :=
  if !flags.multiLine then .textStart
  else if flags.returns then .lineStartReturn
  else .lineStart

/-- The anchor of the end. -/
def endLook (flags : Flags) : Look :=
  if !flags.multiLine then .textEnd
  else if flags.returns then .lineEndReturn
  else .lineEnd

/-- An escape or a character as an expression. -/
def primitiveItem (flags : Flags) : Primitive → Item
  | .char c => .ofSet (flags.closeChar c)
  | .set set => .ofSet set
  | .look look => .ofLook look

/-- A character, a dot, an anchor or an escape. -/
def readPrimitive (flags : Flags) (cs : List Char) : Option (Item × List Char) :=
  match cs with
  | [] => none
  | '\\' :: rest =>
    (readEscape flags rest).map fun (primitive, rest) => (primitiveItem flags primitive, rest)
  | '.' :: rest => (dotSet? flags).map fun set => (.ofSet set, rest)
  | '^' :: rest => some (.ofLook (startLook flags), rest)
  | '$' :: rest => some (.ofLook (endLook flags), rest)
  | c :: rest => some (primitiveItem flags (.char c), rest)

/-- **Alternatives up to the end of their group**, which is left to be read. -/
def readItems : Nat → Level → Cursor → Option (Item × Cursor)
  | 0, _, _ => none
  | fuel + 1, level, cursor =>
    let cs := skipSpace level.flags cursor.rest
    let repeated (least : Nat) (most : Option Nat) (rest : List Char) :=
      let (lazy, rest) := readLazy rest
      match level.repeatLast least most lazy with
      | none => none
      | some level => readItems fuel level { cursor with rest := rest }
    match cs with
    | [] => some (level.finish, { cursor with rest := [] })
    | ')' :: _ => some (level.finish, { cursor with rest := cs })
    | '|' :: rest =>
      readItems fuel { level with choices := level.current :: level.choices, row := [] }
        { cursor with rest := rest }
    | '?' :: rest => repeated 0 (some 1) rest
    | '*' :: rest => repeated 0 none rest
    | '+' :: rest => repeated 1 none rest
    | '{' :: rest =>
      match readBounds level.flags rest with
      | none => none
      | some ((least, most), rest) => repeated least most (skipSpace level.flags rest)
    | '[' :: rest =>
      let (b, rest) := openBracket level.flags rest
      match readBracket level.flags (rest.length + 1) b rest with
      | none => none
      | some ((set, depth), rest) =>
        readItems fuel (level.push (.ofSet set (depth + 1))) { cursor with rest := rest }
    | '(' :: rest =>
      match readGroup level.flags rest with
      | none => none
      | some (.modes flags, rest) =>
        readItems fuel { level with flags := flags, row := none :: level.row }
          { cursor with rest := rest }
      | some (.plain flags, rest) =>
        match readItems fuel { flags := flags } { cursor with rest := rest } with
        | some (body, { rest := ')' :: rest, nextGroup, names }) =>
          readItems fuel (level.push { body with depth := body.depth + 1 })
            ⟨rest, nextGroup, names⟩
        | _ => none
      | some (.captured name, rest) =>
        if name.any cursor.names.contains then none
        else
          let inner : Cursor :=
            ⟨rest, cursor.nextGroup + 1, name.toList ++ cursor.names⟩
          match readItems fuel { flags := level.flags } inner with
          | some (body, { rest := ')' :: rest, nextGroup, names }) =>
            readItems fuel (level.push (.captured cursor.nextGroup name body))
              ⟨rest, nextGroup, names⟩
          | _ => none
    | _ =>
      match readPrimitive level.flags cs with
      | none => none
      | some (item, rest) => readItems fuel (level.push item) { cursor with rest := rest }

end Folio.Pattern
