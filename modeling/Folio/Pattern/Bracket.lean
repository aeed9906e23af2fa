import Folio.Pattern.Escape

/-!
# Bracketed sets

A bracketed set lists characters, spans, escapes, named ASCII classes and further bracketed sets.
The operators `&&`, `--` and `~~` combine what stands before and after them, from left to right.

* `readItem`: a character or an escape inside brackets.
* `readSpan`: an item, or a span between two characters.
* **`readBracket`**: a set after its opening bracket, and how deep what is between the brackets
  nests: a list of two items or more, an operator and a bracketed set nest one deeper each.
-/

namespace Folio.Pattern

open Unicode (CharSet)

/-- An operator between two sets. -/
inductive SetOp
  | inter
  | diff
  | symmDiff
  deriving DecidableEq, Inhabited, Repr

/-- The set that an operator gives. -/
def SetOp.apply (op : SetOp) (a b : CharSet) : CharSet :=
  match op with
  | .inter => a.inter b
  | .diff => a.diff b
  | .symmDiff => a.symmDiff b

/-- A set while it is being read: the items since the last operator, and what stands before it. -/
structure Bracket where
  negated : Bool
  items : CharSet := CharSet.none
  count : Nat := 0
  /-- How deep the deepest item nests. -/
  itemDepth : Nat := 0
  /-- The last operator, with the set before it and how deep that nests. -/
  left : Option (SetOp × CharSet × Nat) := none

namespace Bracket

/-- One more item. -/
def add (b : Bracket) (set : CharSet) (depth : Nat := 0) : Bracket :=
  { b with
    items := b.items.union set, count := b.count + 1, itemDepth := max b.itemDepth depth }

/-- The set read so far, and how deep it nests. -/
def value (flags : Flags) (b : Bracket) : CharSet × Nat :=
  let depth := if b.count > 1 then b.itemDepth + 1 else b.itemDepth
  match b.left with
  | none => (b.items, depth)
  | some (op, left, leftDepth) =>
    (op.apply (flags.close left) (flags.close b.items), max leftDepth depth + 1)

/-- An operator after what has been read. -/
def operate (flags : Flags) (b : Bracket) (op : SetOp) : Bracket :=
  { negated := b.negated, left := some (op, b.value flags) }

/-- The finished set, and how deep what is between its brackets nests. -/
def finish? (flags : Flags) (b : Bracket) : Option (CharSet × Nat) :=
  let (set, depth) := b.value flags
  let set := flags.close set
  (if b.negated then flags.complement? set else some set).map fun set => (set, depth)

end Bracket

/-- A character or an escape inside brackets. -/
def readItem (flags : Flags) (cs : List Char) : Option (Primitive × List Char) :=
  match cs with
  | [] => none
  | '\\' :: rest => readEscape flags rest
  | c :: rest => some (.char c, rest)

/-- The set of an item; a condition is no set. -/
def itemSet? (flags : Flags) : Primitive → Option CharSet
  | .char c => if flags.unicode || c.toNat < 0x80 then some (CharSet.single c) else none
  | .set set => some set
  | .look _ => none

/-- An item, or a span between two characters. -/
def readSpan (flags : Flags) (cs : List Char) : Option (CharSet × List Char) := do
  let (first, rest) ← readItem flags cs
  let rest := skipSpace flags rest
  match rest with
  | [] => none
  | '-' :: more =>
    let more := skipSpace flags more
    if more.head? = some ']' || more.head? = some '-' then return (← itemSet? flags first, rest)
    else
      let (last, rest) ← readItem flags more
      match first, last with
      | .char lo, .char hi =>
        if lo ≤ hi ∧ (flags.unicode ∨ hi.toNat < 0x80) then return (CharSet.span lo hi, rest)
        else none
      | _, _ => none
  | _ => return (← itemSet? flags first, rest)

/-- A named ASCII class after its opening bracket. -/
def readNamed (flags : Flags) (cs : List Char) : Option (Option CharSet × List Char) :=
  match cs with
  | ':' :: rest =>
    let (negated, rest) : Bool × List Char :=
      match rest with
      | '^' :: rest => (true, rest)
      | _ => (false, rest)
    let name := rest.takeWhile (· != ':')
    match rest.drop name.length with
    | ':' :: ']' :: rest =>
      (asciiClass? (String.ofList name)).map fun set =>
        let set := flags.close set
        (if negated then flags.complement? set else some set, rest)
    | _ => none
  | _ => none

/-- The beginning of a set after its opening bracket: hyphens stand for themselves there, and so
does a closing bracket that comes first. -/
def openBracket (flags : Flags) (cs : List Char) : Bracket × List Char :=
  let cs := skipSpace flags cs
  let (negated, cs) : Bool × List Char :=
    match cs with
    | '^' :: rest => (true, skipSpace flags rest)
    | _ => (false, cs)
  let (b, cs) := hyphens { negated := negated } cs.length cs
  match cs with
  | ']' :: rest =>
    if b.count = 0 then (b.add (CharSet.single ']'), skipSpace flags rest) else (b, cs)
  | _ => (b, cs)
where
  /-- Hyphens at the beginning. -/
  hyphens (b : Bracket) : Nat → List Char → Bracket × List Char
    | 0, cs => (b, cs)
    | fuel + 1, cs =>
      match cs with
      | '-' :: rest => hyphens (b.add (CharSet.single '-')) fuel (skipSpace flags rest)
      | _ => (b, cs)

/-- **The rest of a set**, up to its closing bracket. -/
def readBracket (flags : Flags) : Nat → Bracket → List Char → Option ((CharSet × Nat) × List Char)
  | 0, _, _ => none
  | fuel + 1, b, cs =>
    match skipSpace flags cs with
    | [] => none
    | '[' :: rest =>
      match readNamed flags rest with
      | some (none, _) => none
      | some (some set, rest) => readBracket flags fuel (b.add set) rest
      | none =>
        let (inner, rest) := openBracket flags rest
        match readBracket flags fuel inner rest with
        | none => none
        | some ((set, depth), rest) => readBracket flags fuel (b.add set (depth + 1)) rest
    | ']' :: rest => (b.finish? flags).map fun set => (set, rest)
    | '&' :: '&' :: rest => readBracket flags fuel (b.operate flags .inter) rest
    | '-' :: '-' :: rest => readBracket flags fuel (b.operate flags .diff) rest
    | '~' :: '~' :: rest => readBracket flags fuel (b.operate flags .symmDiff) rest
    | rest =>
      match readSpan flags rest with
      | none => none
      | some (set, rest) => readBracket flags fuel (b.add set) rest

end Folio.Pattern
