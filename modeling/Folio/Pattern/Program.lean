import Folio.Pattern.Syntax

/-!
# Programs

An expression is turned into a program. Each instruction names those that come next, so a loop is
an instruction that leads back. Of two ways on, the first is preferred.

* `Instr`, `Program`: the instructions; the program begins at `Program.start`.
* `Node.emit`: the instructions of an expression, before those that follow it.
* **`Node.program`**: the program of an expression.
-/

namespace Folio.Pattern

open Unicode (CharSet)

/-- An instruction. -/
inductive Instr
  /-- Read a character of a set. -/
  | one (set : CharSet) (next : Nat)
  | look (look : Look) (next : Nat)
  /-- Remember the position. -/
  | mark (slot next : Nat)
  /-- Two ways on, the first preferred. -/
  | fork (first second : Nat)
  /-- The text matches. -/
  | accept
  deriving DecidableEq, Inhabited

/-- Instructions, and where to begin. -/
structure Program where
  instrs : Array Instr
  start : Nat
  deriving DecidableEq, Inhabited

/-- Where the beginning and the end of a group are remembered. -/
def slotOf (index : Nat) (atEnd : Bool) : Nat :=
  2 * index + (if atEnd then 1 else 0)

/-- Two ways on: into a body, or past it. -/
def branch (greedy : Bool) (body past : Nat) : Instr :=
  if greedy then .fork body past else .fork past body

/-- What puts the instructions of a part before those that begin at an address. The answer is where
the part begins. -/
abbrev Emit := Nat → Array Instr → Nat × Array Instr

/-- A part `count` times. -/
def emitTimes (part : Emit) : Nat → Emit
  | 0, next, instrs => (next, instrs)
  | count + 1, next, instrs =>
    let (start, instrs) := part next instrs
    emitTimes part count start instrs

/-- A part at most `count` times: each copy may be left out with those that follow. -/
def emitOptional (part : Emit) (greedy : Bool) (past : Nat) : Nat → Emit
  | 0, next, instrs => (next, instrs)
  | count + 1, next, instrs =>
    let (body, instrs) := part next instrs
    emitOptional part greedy past count instrs.size (instrs.push (branch greedy body past))

/-- A loop: after each round of a part there are two ways on. The answers are where they fork, where
the part begins, and the instructions. -/
def emitLoop (part : Emit) (greedy : Bool) (next : Nat) (instrs : Array Instr) :
    Nat × Nat × Array Instr :=
  let again := instrs.size
  let (body, instrs) := part again (instrs.push (.fork next next))
  (again, body, instrs.set! again (branch greedy body next))

/-- **The instructions of an expression**, before those that begin at `next`. A loop without a least
number of rounds is entered where its rounds fork; if a round can match the empty text, there is a
fork of its own before the first one, so that an empty round does not come in the way of the loop's
end. -/
def Node.emit : Node → Emit
  | .empty => fun next instrs => (next, instrs)
  | .one set => fun next instrs => (instrs.size, instrs.push (.one set next))
  | .look condition => fun next instrs => (instrs.size, instrs.push (.look condition next))
  | .group index name body => fun next instrs =>
    match name with
    | none => body.emit next instrs
    | some _ =>
      let (start, instrs) :=
        body.emit instrs.size (instrs.push (.mark (slotOf index true) next))
      (instrs.size, instrs.push (.mark (slotOf index false) start))
  | .cat first second => fun next instrs =>
    let (middle, instrs) := second.emit next instrs
    first.emit middle instrs
  | .alt first second => fun next instrs =>
    let (b, instrs) := second.emit next instrs
    let (a, instrs) := first.emit next instrs
    (instrs.size, instrs.push (.fork a b))
  | .loop least most greedy body => fun next instrs =>
    match most, least with
    | some most, least =>
      let (start, instrs) := emitOptional body.emit greedy next (most - least) next instrs
      emitTimes body.emit least start instrs
    | none, 0 =>
      let (again, start, instrs) := emitLoop body.emit greedy next instrs
      if body.least.any (0 < ·) then (again, instrs)
      else (instrs.size, instrs.push (branch greedy start next))
    | none, least + 1 =>
      let (_, start, instrs) := emitLoop body.emit greedy next instrs
      emitTimes body.emit least start instrs

/-- **The program of an expression.** -/
def Node.program (node : Node) : Program :=
  let (start, instrs) := node.emit 0 #[.accept]
  ⟨instrs, start⟩

end Folio.Pattern
