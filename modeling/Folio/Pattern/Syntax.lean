import Folio.Pattern.Classes

/-!
# Regular expressions

* `Look`: a condition on the characters before and after a position; `Look.holds` says when it is
  met.
* **`Node`**: a regular expression. Groups are numbered from one, in the order they open.
* `Node.groupNames`: the named groups, in the order of their numbers.
* `Node.least`: the length of the shortest match.
-/

namespace Folio.Pattern

open Unicode (CharSet)

/-- What a condition on words asks. -/
inductive WordEdge
  /-- A word begins or ends. -/
  | boundary
  /-- No word begins or ends. -/
  | noBoundary
  | start
  | stop
  /-- No word stands before. -/
  | startHalf
  /-- No word stands after. -/
  | stopHalf
  deriving DecidableEq, Inhabited, Repr

/-- A condition on the characters before and after a position. -/
inductive Look
  | textStart
  | textEnd
  | lineStart
  | lineEnd
  /-- The beginning of a line, where carriage returns end lines too. -/
  | lineStartReturn
  /-- The end of a line, where carriage returns end lines too. -/
  | lineEndReturn
  /-- A condition on words; the word characters are those of every script, or of ASCII. -/
  | word (edge : WordEdge) (unicode : Bool)
  deriving DecidableEq, Inhabited, Repr

/-- Is the condition met, if a word character stands before and if one stands after? -/
def WordEdge.holds (edge : WordEdge) (before after : Bool) : Bool :=
  match edge with
  | .boundary => before != after
  | .noBoundary => before == after
  | .start => !before && after
  | .stop => before && !after
  | .startHalf => !before
  | .stopHalf => !after

/-- **Is the condition met** between two characters? There are none beyond the ends. -/
def Look.holds (look : Look) (before after : Option Char) : Bool :=
  match look with
  | .textStart => before.isNone
  | .textEnd => after.isNone
  | .lineStart => before.isNone || before == some '\n'
  | .lineEnd => after.isNone || after == some '\n'
  | .lineStartReturn =>
    before.isNone || before == some '\n' || (before == some '\r' && after != some '\n')
  | .lineEndReturn =>
    after.isNone || after == some '\r' || (after == some '\n' && before != some '\r')
  | .word edge unicode =>
    let isWord (c : Char) : Bool := if unicode then wordChars.has c else asciiWordChars.has c
    edge.holds (before.any isWord) (after.any isWord)

/-- **A regular expression.** -/
inductive Node
  | empty
  /-- One character of a set. -/
  | one (set : CharSet)
  /-- A condition on the position. -/
  | look (look : Look)
  /-- A group whose text is remembered. -/
  | group (index : Nat) (name : Option String) (body : Node)
  | cat (first second : Node)
  /-- The first alternative is preferred. -/
  | alt (first second : Node)
  /-- At least `least` times, at most `most` times if that is given; as often as possible if
  `greedy`, else as seldom. -/
  | loop (least : Nat) (most : Option Nat) (greedy : Bool) (body : Node)
  deriving Inhabited

/-- The named groups, in the order of their numbers. -/
def Node.groupNames : Node → List (Nat × String)
  | .empty => []
  | .one _ => []
  | .look _ => []
  | .group index name body => (name.toList.map fun name => (index, name)) ++ body.groupNames
  | .cat first second => first.groupNames ++ second.groupNames
  | .alt first second => first.groupNames ++ second.groupNames
  | .loop _ _ _ body => body.groupNames

/-- The least number of characters in a match; none if some part can match nothing at all. -/
def Node.least : Node → Option Nat
  | .empty => some 0
  | .one set => if set.isEmpty then none else some 1
  | .look _ => some 0
  | .group _ _ body => body.least
  | .cat first second =>
    match first.least, second.least with
    | some a, some b => some (a + b)
    | _, _ => none
  | .alt first second =>
    match first.least, second.least with
    | some a, some b => some (min a b)
    | _, _ => none
  | .loop least _ _ body => body.least.map (least * ·)

/-- Expressions in a row. -/
def Node.sequence : List Node → Node
  | [] => .empty
  | node :: rest => rest.foldl .cat node

/-- Alternatives, the first preferred. -/
def Node.choice : List Node → Node
  | [] => .empty
  | [node] => node
  | node :: rest => .alt node (Node.choice rest)

end Folio.Pattern
