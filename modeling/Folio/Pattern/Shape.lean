import Folio.Pattern.ByteSpan
import Folio.Pattern.Syntax

/-!
# Shapes of expressions

The shape of an expression is what an automaton is built from: rows and alternatives are flat,
neighbouring characters are joined into texts, alternatives that are single characters or sets are
one set, and what alternatives begin with in common stands before them.

* `Shape`: the shapes, with constructors that keep them simple: `Shape.ofSet`, `Shape.row`,
  `Shape.choice`, `Shape.repeated`.
* `Shape.least`, `Shape.most`: the shortest and the longest text that can match, in bytes.
* `Shape.anchored`: does every match begin at the beginning of the text, or end at its end?
-/

namespace Folio.Pattern

open Unicode (CharSet)

/-- The bytes of a text. -/
def encodeChars (cs : List Char) : List Nat :=
  cs.flatMap fun c => encodeScalar c.toNat

/-- The shape of an expression. -/
inductive Shape
  | empty
  /-- One or more characters. -/
  | text (cs : List Char)
  /-- One character of a set, with the sequences of bytes that encode its members. -/
  | set (set : CharSet) (sequences : List (List ByteSpan))
  | look (look : Look)
  | group (body : Shape)
  /-- Two or more shapes in a row. -/
  | cat (parts : List Shape)
  /-- Two or more alternatives. -/
  | alt (parts : List Shape)
  | loop (least : Nat) (most : Option Nat) (greedy : Bool) (body : Shape)
  deriving Inhabited

namespace Shape

/-! ## Measures -/

mutual

/-- The length in bytes of the shortest match; none if nothing matches. -/
def least : Shape → Option Nat
  | .empty => some 0
  | .text cs => some (encodeChars cs).length
  | .set _ sequences => (sequences.map List.length).min?
  | .look _ => some 0
  | .group body => body.least
  | .cat parts => leastOfRow parts
  | .alt parts => leastOfChoice parts
  | .loop least _ _ body => body.least.map (least * ·)

/-- The shortest match of shapes in a row. -/
def leastOfRow : List Shape → Option Nat
  | [] => some 0
  | part :: rest =>
    match part.least, leastOfRow rest with
    | some a, some b => some (a + b)
    | _, _ => none

/-- The shortest match of alternatives, all of which can match. -/
def leastOfChoice : List Shape → Option Nat
  | [] => none
  | [part] => part.least
  | part :: rest =>
    match part.least, leastOfChoice rest with
    | some a, some b => some (min a b)
    | _, _ => none

end

mutual

/-- The length in bytes of the longest match; none if there is no longest. -/
def most : Shape → Option Nat
  | .empty => some 0
  | .text cs => some (encodeChars cs).length
  | .set _ sequences => (sequences.map List.length).max?
  | .look _ => some 0
  | .group body => body.most
  | .cat parts => mostOfRow parts
  | .alt parts => mostOfChoice parts
  | .loop _ most _ body =>
    match most, body.most with
    | some a, some b => some (a * b)
    | _, _ => none

/-- The longest match of shapes in a row. -/
def mostOfRow : List Shape → Option Nat
  | [] => some 0
  | part :: rest =>
    match part.most, mostOfRow rest with
    | some a, some b => some (a + b)
    | _, _ => none

/-- The longest match of alternatives. -/
def mostOfChoice : List Shape → Option Nat
  | [] => none
  | [part] => part.most
  | part :: rest =>
    match part.most, mostOfChoice rest with
    | some a, some b => some (max a b)
    | _, _ => none

end

mutual

/-- Does every match meet the condition `anchor` before its first byte or, if `atEnd`, after its
last one? -/
def anchored (anchor : Look) (atEnd : Bool) : Shape → Bool
  | .look condition => condition = anchor
  | .group body => body.anchored anchor atEnd
  | .cat parts => (anchoredRow anchor atEnd parts).1
  | .alt parts => anchoredChoice anchor atEnd parts
  | .loop least _ _ body => least != 0 && body.anchored anchor atEnd
  | .empty | .text _ | .set _ _ => false

/-- Is a row anchored, and can it only match the empty text? What stands behind a part that can
match a byte does not count. -/
def anchoredRow (anchor : Look) (atEnd : Bool) : List Shape → Bool × Bool
  | [] => (false, true)
  | part :: rest =>
    let (restAnchored, restEmpty) := anchoredRow anchor atEnd rest
    let here := part.anchored anchor atEnd
    let empty := part.most.any (· == 0)
    (if atEnd then restAnchored || (restEmpty && here) else here || (empty && restAnchored),
      empty && restEmpty)

/-- Are all alternatives anchored? -/
def anchoredChoice (anchor : Look) (atEnd : Bool) : List Shape → Bool
  | [] => true
  | part :: rest => part.anchored anchor atEnd && anchoredChoice anchor atEnd rest

end

mutual

/-- The number of parts of a shape. -/
def weight : Shape → Nat
  | .group body => body.weight + 1
  | .cat parts => weightOfAll parts + 1
  | .alt parts => weightOfAll parts + 1
  | .loop _ _ _ body => body.weight + 1
  | .empty | .text _ | .set _ _ | .look _ => 1

/-- The number of parts of several shapes. -/
def weightOfAll : List Shape → Nat
  | [] => 0
  | part :: rest => part.weight + weightOfAll rest

end

mutual

/-- Are two shapes alike? No two groups are. -/
def same : Shape → Shape → Bool
  | .empty, .empty => true
  | .text a, .text b => a == b
  | .set a _, .set b _ => a == b
  | .look a, .look b => a == b
  | .cat a, .cat b => sameAll a b
  | .alt a, .alt b => sameAll a b
  | .loop least most greedy a, .loop least' most' greedy' b =>
    least == least' && most == most' && greedy == greedy' && a.same b
  | _, _ => false

/-- Are two lists of shapes alike? -/
def sameAll : List Shape → List Shape → Bool
  | [], [] => true
  | a :: as, b :: bs => a.same b && sameAll as bs
  | _, _ => false

end

/-! ## Constructors -/

/-- The shape of one character of a set. -/
def ofSet (set : CharSet) : Shape :=
  match set.only? with
  | some c => .text [c]
  | none => .set set (byteSequences set)

/-- The parts of a shape that is a row. -/
def parts : Shape → List Shape
  | .cat parts => parts
  | .empty => []
  | other => [other]

/-- Join neighbouring texts. -/
def joinTexts : List Shape → List Shape
  | [] => []
  | .text a :: rest =>
    match joinTexts rest with
    | .text b :: rest => .text (a ++ b) :: rest
    | rest => .text a :: rest
  | other :: rest => other :: joinTexts rest

/-- Shapes in a row. -/
def row (shapes : List Shape) : Shape :=
  match joinTexts (shapes.flatMap parts) with
  | [] => .empty
  | [part] => part
  | parts => .cat parts

/-- The alternatives of a shape. -/
def alternatives : Shape → List Shape
  | .alt parts => parts
  | other => [other]

/-- The characters of alternatives that are single characters. -/
def singles? : List Shape → Option (List Char)
  | [] => some []
  | .text [c] :: rest => (singles? rest).map (c :: ·)
  | _ => none

/-- The sets of alternatives that are sets. -/
def sets? : List Shape → Option (List CharSet)
  | [] => some []
  | .set members _ :: rest => (sets? rest).map (members :: ·)
  | _ => none

/-- The rows of alternatives that are rows. -/
def rows? : List Shape → Option (List (List Shape))
  | [] => some []
  | .cat parts :: rest => (rows? rest).map (parts :: ·)
  | _ => none

/-- The length of what two rows begin with in common. -/
def commonLength : List Shape → List Shape → Nat
  | a :: as, b :: bs => if a.same b then commonLength as bs + 1 else 0
  | _, _ => 0

/-- The length of what all rows begin with in common. -/
def commonStart : List (List Shape) → Nat
  | [] => 0
  | first :: rest => rest.foldl (fun n row => min n (commonLength first row)) first.length

/-- Alternatives that have been made flat. -/
def choiceOf : Nat → List Shape → Shape
  | _, [] => .set CharSet.none []
  | _, [part] => part
  | 0, parts => .alt parts
  | fuel + 1, parts =>
    match singles? parts, sets? parts, rows? parts with
    | some cs, _, _ => ofSet (CharSet.ofChars cs)
    | _, some sets, _ => ofSet (CharSet.ofSpans (sets.flatMap fun set => set.spans.toList))
    | _, _, some rows =>
      let n := commonStart rows
      if n = 0 then .alt parts
      else
        let rests := rows.map fun parts => row (parts.drop n)
        row ((rows.headD []).take n ++ [choiceOf fuel (rests.flatMap alternatives)])
    | _, _, _ => .alt parts

/-- Alternatives. -/
def choice (shapes : List Shape) : Shape :=
  let parts := shapes.flatMap alternatives
  choiceOf (weightOfAll parts + 1) parts

/-- The bounds of a loop: what can only match the empty text is matched at most once. -/
def bounds (body : Shape) (least : Nat) (most : Option Nat) : Nat × Option Nat :=
  if body.most = some 0 then (min least 1, some (min (most.getD 1) 1)) else (least, most)

/-- A shape between `least` and `most` times, within bounds. -/
def repeated (least : Nat) (most : Option Nat) (greedy : Bool) (body : Shape) : Shape :=
  if most = some 0 then .empty
  else if least = 1 ∧ most = some 1 then body
  else .loop least most greedy body

end Shape

end Folio.Pattern
