import Std.Data.HashSet
import Folio.Pattern.Program

/-!
# Searching

A program is run by trying the preferred way on and coming back to the other one. What follows a
place in the program depends only on the position in the text, so no place is tried twice at one
position. The search begins at every position, the first preferred.

* `Thread`: a place in the program and a position in the text, with the marks set on the way there.
* `Program.step`: the ways on from a thread, in order of preference.
* `Program.explore`: the first of some threads to reach the end of the program.
* **`Program.search`**: the leftmost match in a text, the preferred one among those.
-/

namespace Folio.Pattern

/-- A place in the program and a position in the text. -/
structure Thread where
  place : Nat
  before : Option Char
  rest : List Char
  position : Nat
  /-- The marks set on the way there, latest first. -/
  marks : List (Nat × Nat) := []
  deriving Inhabited

/-- The latest position that is remembered in a slot. -/
def Thread.mark? (thread : Thread) (slot : Nat) : Option Nat :=
  thread.marks.lookup slot

/-- The text of a group. -/
def Thread.group? (thread : Thread) (text : String) (index : Nat) : Option String := do
  let first ← thread.mark? (slotOf index false)
  let last ← thread.mark? (slotOf index true)
  return String.ofList ((text.toList.drop first).take (last - first))

/-- The ways on from a thread, in order of preference. -/
def Instr.step (instr : Instr) (thread : Thread) : List Thread :=
  match instr with
  | .one set next =>
    match thread.rest with
    | [] => []
    | c :: rest =>
      if set.has c then
        [{ thread with place := next, before := some c, rest, position := thread.position + 1 }]
      else []
  | .look condition next =>
    if condition.holds thread.before thread.rest.head? then [{ thread with place := next }] else []
  | .mark slot next =>
    [{ thread with place := next, marks := (slot, thread.position) :: thread.marks }]
  | .fork first second => [{ thread with place := first }, { thread with place := second }]
  | .accept => []

namespace Program

/-- **The first of some threads to reach the end of the program.** -/
def explore (program : Program) : Nat → Std.HashSet Nat → List Thread → Option Thread
  | 0, _, _ => none
  | _ + 1, _, [] => none
  | fuel + 1, seen, thread :: threads =>
    let key := thread.position * program.instrs.size + thread.place
    if seen.contains key then explore program fuel seen threads
    else
      match program.instrs[thread.place]? with
      | none => explore program fuel seen threads
      | some .accept => some thread
      | some instr => explore program fuel (seen.insert key) (instr.step thread ++ threads)

/-- A thread at the start of the program for every position, in order. -/
def starts (program : Program) (before : Option Char) (position : Nat) : List Char → List Thread
  | [] => [{ place := program.start, before := before, rest := [], position := position }]
  | c :: rest =>
    { place := program.start, before := before, rest := c :: rest, position := position } ::
      program.starts (some c) (position + 1) rest

/-- The number of steps that a search takes at most: every thread is taken up once, and each place
puts at most two threads at each position. -/
def searchSteps (program : Program) (text : List Char) : Nat :=
  (2 * program.instrs.size + 1) * (text.length + 1) + 1

/-- **The leftmost match in a text.** -/
def search (program : Program) (text : String) : Option Thread :=
  let cs := text.toList
  program.explore (program.searchSteps cs) ∅ (program.starts none 0 cs)

end Program

end Folio.Pattern
