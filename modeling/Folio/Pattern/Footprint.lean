import Std.Data.HashMap
import Folio.Pattern.Shape

/-!
# Footprints

An expression is recognised by two automata that read bytes, one forwards and one backwards, and
neither may take more than `limit` bytes of memory. The footprint of an automaton is found by laying
it out without keeping it: only the number of its states and the room for their edges are counted.

* `Layout`: what has been laid out so far; `Layout.size` its memory.
* `Meter`: steps of laying out, which fail as soon as the limit is passed.
* `Fragment`: the ends of a part of an automaton.
* `layTrie`: alternatives that are texts share their beginnings.
* `layForward`, `layBackward`: a set of characters. States that are alike are shared as far as a
  small table remembers them.
* `lay`: the automaton of a shape.
* **`fits`**: do both automata of a shape keep within the limit?
-/

namespace Folio.Pattern

open Unicode (CharSet)

/-- The memory that an automaton may take, in bytes. -/
def limit : Nat := 10 * 1024 * 1024

/-- The memory of a state without its edges. -/
def stateSize : Nat := 32

/-- The memory of an edge that reads a byte, where a state has several. -/
def edgeSize : Nat := 8

/-- The memory of an edge that reads nothing. -/
def forkSize : Nat := 4

/-- What has been laid out: the number of states, and the memory of their edges. -/
structure Layout where
  states : Nat := 0
  edges : Nat := 0
  deriving Inhabited, Repr

/-- The memory of what has been laid out. -/
def Layout.size (layout : Layout) : Nat :=
  layout.states * stateSize + layout.edges

/-- Steps of laying out, which fail as soon as the limit is passed. -/
abbrev Meter := StateT Layout Option

/-- Lay out `count` more states whose edges take `edges` bytes together. The answer is the number of
the first one. -/
def addStates (count edges : Nat) : Meter Nat := fun layout =>
  let grown : Layout := ⟨layout.states + count, layout.edges + edges⟩
  if grown.size ≤ limit then some (layout.states, grown) else none

/-- Lay out a state whose edges take `edges` bytes. -/
def addState (edges : Nat := 0) : Meter Nat :=
  addStates 1 edges

/-- Lay out `count` more edges that read nothing. -/
def addForks (count : Nat) : Meter Unit := do
  let _ ← addStates 0 (count * forkSize)

/-- The ends of a part of an automaton. -/
structure Fragment where
  /-- The last state has edges that read nothing; one more is added when another part follows. -/
  forks : Bool := false
  deriving Inhabited, Repr

/-- Let another part follow. -/
def Fragment.join (fragment : Fragment) : Meter Unit :=
  addForks (if fragment.forks then 1 else 0)

/-! ## Texts -/

/-- Split words at the empty ones. As long as there are only empty ones, the first of them counts
alone: `seen` says that there have been others, `ended` that there has been an empty one. -/
def splitAtEmpty (seen ended : Bool) : List (List Nat) → List (List (Nat × List Nat))
  | [] => [[]]
  | [] :: rest =>
    if ended && !seen then splitAtEmpty seen ended rest else [] :: splitAtEmpty seen true rest
  | (byte :: word) :: rest =>
    match splitAtEmpty true ended rest with
    | [] => [[(byte, word)]]
    | first :: others => ((byte, word) :: first) :: others

/-- The words of a list by their first bytes: what follows each of them. -/
def groupByFirst (words : List (Nat × List Nat)) : List (Nat × List (List Nat)) :=
  let bytes := (words.map Prod.fst).eraseDups
  bytes.map fun byte => (byte, (words.filter (·.1 = byte)).map Prod.snd)

/-- The states and edges below a node of a trie that holds `words`: a state for each part between
two ends of words, and one that leads to these parts and to the end. -/
def trieLayout : Nat → List (List Nat) → Layout
  | 0, _ => {}
  | fuel + 1, words =>
    if words.all List.isEmpty then {}
    else
      let chunks := splitAtEmpty false false words
      let filled := (chunks.map groupByFirst).filter fun chunk => !chunk.isEmpty
      let edges := filled.map fun chunk =>
        if chunk.length > 1 then chunk.length * edgeSize else 0
      let below := filled.flatMap fun chunk =>
        chunk.map fun (_, words) => trieLayout fuel words
      { states := filled.length + 1 + (below.map Layout.states).sum
        edges :=
          edges.sum + (filled.length + (chunks.length - 1)) * forkSize +
            (below.map Layout.edges).sum }

/-- Alternatives that are texts. -/
def layTrie (backward : Bool) (words : List (List Nat)) : Meter Fragment := do
  let words := if backward then words.map List.reverse else words
  let depth := (words.map List.length).foldl max 0
  let trie := trieLayout (depth + 1) words
  let _ ← addStates (trie.states + 1) trie.edges
  return {}

/-! ## Sets -/

/-- An edge of a state: the bytes that it reads and the state that it leads to. -/
structure Edge where
  bytes : ByteSpan
  target : Nat
  deriving DecidableEq, Inhabited, Repr

/-- Mix a number into a hash. -/
def mix (hash : UInt64) (n : Nat) : UInt64 :=
  (hash ^^^ UInt64.ofNat n) * 1099511628211

/-- The hash of nothing. -/
def hashStart : UInt64 := 14695981039346656037

/-- The place of a state with these edges in the table of states. -/
def edgesPlace (edges : List Edge) : Nat :=
  let hash := edges.foldl
    (fun hash edge => mix (mix (mix hash edge.bytes.lo) edge.bytes.hi) edge.target) hashStart
  hash.toNat % 10000

/-- The states laid out before, by their places in the table. A place remembers the latest. -/
abbrev StateTable := Std.HashMap Nat (List Edge × Nat)

/-- The state with these edges, shared with one that the table remembers. -/
def internState (table : StateTable) (edges : List Edge) : Meter (Nat × StateTable) := do
  let place := edgesPlace edges
  match table[place]? with
  | some (known, state) =>
    if known = edges then return (state, table)
  | none => pure ()
  let state ← addState (edges.length * edgeSize)
  return (state, table.insert place (edges, state))

/-- A state that is not finished: the edges that are, latest first, and the bytes of the last. -/
structure OpenState where
  edges : List Edge := []
  last : Option ByteSpan := none
  deriving Inhabited, Repr

/-- The last edge leads to a state. -/
def OpenState.close (state : OpenState) (target : Nat) : OpenState :=
  match state.last with
  | some bytes => { edges := ⟨bytes, target⟩ :: state.edges }
  | none => state

/-- Finish all but `keep` of the open states, which come deepest first, and let the last edge of the
deepest that is left lead to the states so finished. -/
def closeDown (keep : Nat) : List OpenState → Nat → StateTable →
    Meter (List OpenState × StateTable)
  | [], _, table => return ([], table)
  | deepest :: rest, target, table => do
    if rest.length < keep then return (deepest.close target :: rest, table)
    else
      let (state, table) ← internState table (deepest.close target).edges.reverse
      closeDown keep rest state table

/-- The number of bytes that a sequence has in common with the one before it. -/
def sharedBytes : List ByteSpan → List OpenState → Nat
  | bytes :: rest, state :: states =>
    if state.last = some bytes then sharedBytes rest states + 1 else 0
  | _, _ => 0

/-- Add sequences in ascending order to the open states, which come deepest first. -/
def addSequences (target : Nat) : List (List ByteSpan) → List OpenState → StateTable →
    Meter (List OpenState × StateTable)
  | [], states, table => return (states, table)
  | bytes :: rest, states, table => do
    let n := sharedBytes bytes states.reverse
    let (states, table) ← closeDown (n + 1) states target table
    let fresh := bytes.drop n
    let states :=
      match states with
      | deepest :: above => { deepest with last := fresh.head? } :: above
      | [] => []
    let below := (fresh.drop 1).map fun bytes => { last := some bytes : OpenState }
    addSequences target rest (below.reverse ++ states) table

/-- A set of characters, read forwards: sequences share their beginnings and, as far as the table
remembers, their ends. -/
def layForward (sequences : List (List ByteSpan)) : Meter Fragment := do
  let target ← addState
  let (states, table) ← addSequences target sequences [{}] {}
  let (states, table) ← closeDown 1 states target table
  for root in states do
    let _ ← internState table root.edges.reverse
  return {}

/-- The place of an edge in the table of edges that lead backwards. -/
def edgePlace (edge : Edge) : Nat :=
  (mix (mix (mix hashStart edge.target) edge.bytes.lo) edge.bytes.hi).toNat % 1000

/-- The states of a sequence read backwards; the answer is the last one. -/
def laySequence (table : Std.HashMap Nat (Edge × Nat)) (target : Nat) :
    List ByteSpan → Meter (Std.HashMap Nat (Edge × Nat))
  | [] => do
    addForks 1
    return table
  | bytes :: rest => do
    let edge : Edge := ⟨bytes, target⟩
    let place := edgePlace edge
    let known := (table[place]?).filter fun known => known.1 = edge
    match known with
    | some (_, state) => laySequence table state rest
    | none =>
      let state ← addState
      laySequence (table.insert place (edge, state)) state rest

/-- A set of characters, read backwards: a state leads to the last bytes of all sequences. -/
def layBackward (sequences : List (List ByteSpan)) : Meter Fragment := do
  let _ ← addState
  let stop ← addState
  let _ ← sequences.foldlM (fun table bytes => laySequence table stop bytes) {}
  return {}

/-- A set of characters. One of ASCII characters alone takes two states. -/
def laySet (backward : Bool) (set : CharSet) (sequences : List (List ByteSpan)) :
    Meter Fragment := do
  if set.isAscii then
    let _ ← addStates 2 (set.spans.size * edgeSize)
    return {}
  else if backward then layBackward sequences
  else layForward sequences

/-! ## Loops -/

/-- `count` more copies of a part after a fragment. -/
def layMore (part : Meter Fragment) : Nat → Fragment → Meter Fragment
  | 0, fragment => return fragment
  | count + 1, fragment => do
    let next ← part
    fragment.join
    layMore part count next

/-- A part exactly `count` times. -/
def layTimes (part : Meter Fragment) : Nat → Meter Fragment
  | 0 => do
    let _ ← addState
    return {}
  | count + 1 => do
    let first ← part
    layMore part count first

/-- `count` more copies of a part after a fragment, each of which may be left out with all that
follow. -/
def layOptional (part : Meter Fragment) : Nat → Fragment → Meter Fragment
  | 0, fragment => return fragment
  | count + 1, fragment => do
    let _ ← addState
    let next ← part
    fragment.join
    addForks 2
    layOptional part count next

/-- A part at least `least` times. What can match the empty text must be entered before it can be
repeated. -/
def layAtLeast (part : Meter Fragment) (mayBeEmpty : Bool) (least : Nat) : Meter Fragment := do
  match least with
  | 0 =>
    if mayBeEmpty then
      let body ← part
      let _ ← addStates 3 (4 * forkSize)
      body.join
      return {}
    else
      let _ ← addStates 1 forkSize
      let body ← part
      body.join
      return { forks := true }
  | 1 =>
    let body ← part
    let _ ← addStates 1 forkSize
    body.join
    return { forks := true }
  | least + 2 =>
    let before ← layTimes part (least + 1)
    let body ← part
    let _ ← addStates 1 forkSize
    before.join
    body.join
    return { forks := true }

/-- A part between `least` and `most` times. -/
def layBetween (part : Meter Fragment) (least most : Nat) : Meter Fragment := do
  let before ← layTimes part least
  if least = most then return before
  else
    let _ ← addState
    let last ← layOptional part (most - least) before
    last.join
    return {}

/-- A part that may be left out. -/
def layMaybe (part : Meter Fragment) : Meter Fragment := do
  let _ ← addState
  let body ← part
  let _ ← addStates 1 (2 * forkSize)
  body.join
  return {}

/-! ## Automata -/

/-- The texts of alternatives that all are texts. -/
def texts? : List Shape → Option (List (List Nat))
  | [] => some []
  | .text cs :: rest => (texts? rest).map (encodeChars cs :: ·)
  | _ => none

mutual

/-- **Lay out the automaton of a shape.** Groups are remembered by the automaton that reads forwards
alone. -/
def lay (backward : Bool) : Shape → Meter Fragment
  | .empty => do
    let _ ← addState
    return {}
  | .text cs => do
    let _ ← addStates (encodeChars cs).length 0
    return {}
  | .set set sequences => laySet backward set sequences
  | .look _ => do
    let _ ← addState
    return {}
  | .group body =>
    if backward then lay backward body
    else do
      let _ ← addState
      let inner ← lay backward body
      let _ ← addState
      inner.join
      return {}
  | .cat parts => do
    return (← layRow backward parts).getD {}
  | .alt parts =>
    match texts? parts with
    | some words => layTrie backward words
    | none => do
      layChoice backward 0 parts
      return {}
  | .loop least most _ body =>
    match least, most with
    | 0, some 1 => layMaybe (lay backward body)
    | _, none => layAtLeast (lay backward body) (body.least.getD 0 == 0) least
    | _, some most => layBetween (lay backward body) least most

/-- Lay out parts in a row, in the order in which they are read. -/
def layRow (backward : Bool) : List Shape → Meter (Option Fragment)
  | [] => return none
  | part :: rest =>
    if backward then do
      let after ← layRow backward rest
      let before ← lay backward part
      match after with
      | some after => after.join
      | none => pure ()
      return some before
    else do
      let before ← lay backward part
      match ← layRow backward rest with
      | some after =>
        before.join
        return some after
      | none => return some before

/-- Lay out alternatives, `done` of which have been. The state that leads to them and the one that
they lead to come after the first two. -/
def layChoice (backward : Bool) (done : Nat) : List Shape → Meter Unit
  | [] => return ()
  | part :: rest => do
    let body ← lay backward part
    if done = 1 then
      let _ ← addStates 2 forkSize
    addForks 1
    body.join
    layChoice backward (done + 1) rest

end

/-- Lay out what recognises a shape anywhere in a text: a loop over the bytes before a match, unless
every match is anchored, and the whole match as a group. -/
def layWhole (backward : Bool) (shape : Shape) : Meter Unit := do
  if shape.anchored (if backward then .textEnd else .textStart) backward then
    let _ ← addState
  else
    let _ ← addStates 3 (edgeSize + 2 * forkSize)
  let _ ← lay backward (.group shape)
  let _ ← addState

/-- **Do both automata of a shape keep within the limit?** -/
def fits (shape : Shape) : Bool :=
  ((layWhole false shape).run {}).isSome && ((layWhole true shape).run {}).isSome

end Folio.Pattern
