import Folio.Pattern.Reader
import Folio.Pattern.Search

/-!
# Expressions

A pattern is compiled if it is well formed, does not nest deeper than `maxNest`, and its automata
keep within their limit.

* **`compile?`**: the expression of a pattern, read so that case makes no difference and the dot
  stands for every character.
* **`Expression.captures?`**: the named groups of the leftmost match in a text.
-/

namespace Folio.Pattern

/-- Rows, alternatives, groups, repetitions and brackets nest at most this deep. -/
def maxNest : Nat := 250

/-- A compiled pattern: its named groups, in the order of their numbers, and its program. -/
structure Expression where
  groups : List (Nat × String)
  program : Program
  deriving DecidableEq, Inhabited

/-- The modes that patterns are read in. -/
def patternFlags : Flags :=
  { ignoreCase := true, dotAll := true }

/-- The item of a pattern that is well formed. -/
def read? (pattern : String) : Option Item :=
  let cs := pattern.toList
  match readItems (cs.length + 1) { flags := patternFlags } { rest := cs } with
  | some (item, cursor) => if cursor.rest.isEmpty then some item else none
  | none => none

/-- **The expression of a pattern**; none if it is malformed, nests too deep or grows too large. -/
def compile? (pattern : String) : Option Expression :=
  match read? pattern with
  | some item =>
    if item.depth ≤ maxNest && fits item.shape then
      some ⟨item.node.groupNames, item.node.program⟩
    else none
  | none => none

/-- **The named groups of the leftmost match** in a text, in the order of their numbers; a group
that took no part is empty. None if the text does not match. -/
def Expression.captures? (expression : Expression) (text : String) :
    Option (List (String × String)) :=
  (expression.program.search text).map fun thread =>
    expression.groups.map fun (index, name) => (name, (thread.group? text index).getD "")

end Folio.Pattern
