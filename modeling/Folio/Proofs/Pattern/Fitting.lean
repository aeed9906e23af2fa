import Folio.Pattern.Footprint
import Mathlib.Algebra.Ring.Nat
import Mathlib.Data.List.Basic

/-!
# Room for automata

Laying out an automaton fails as soon as it passes the limit. Steps of laying out are given a budget
instead: what a step does not use is left to the steps after it. A state that is not finished keeps
what it takes to finish it, so sets of characters are paid by the bytes of their sequences.

* **`Pays`**: a step is paid by a budget; `Pays.bind`, one step after the other.
* `OpenState.room`, `pays_closeDown`, `pays_addSequences`: sets of characters read forwards.
* `pays_laySet`: sets of characters in either direction.
* `Shape.Simple`, `rowRoom`: single items, and what a row of them takes.
* **`fits_row`**: a row fits if there is room for its items.
-/

namespace Folio.Pattern

open Unicode (CharSet)

/-! ## Budgets -/

/-- **A step is paid by a budget**: where there is room for `cost` bytes it succeeds, and of the
budget `left a` bytes remain, which may depend on the answer. -/
def Pays {α : Type} (step : Meter α) (cost : Nat) (left : α → Nat) : Prop :=
  ∀ layout : Layout, layout.size + cost ≤ limit →
    ∃ a grown, step layout = some (a, grown) ∧ grown.size + left a ≤ layout.size + cost

section Budgets

variable {α β : Type} {step : Meter α} {cost : Nat} {left : α → Nat}

theorem pays_pure (a : α) (left : α → Nat) : Pays (pure a) (left a) left :=
  fun layout _ => ⟨a, layout, rfl, Nat.le_refl _⟩

theorem Pays.bind {next : α → Meter β} {rest : β → Nat} (h : Pays step cost left)
    (hnext : ∀ a, Pays (next a) (left a) rest) : Pays (step >>= next) cost rest := by
  intro layout hroom
  obtain ⟨a, grown, hstep, hgrown⟩ := h layout hroom
  obtain ⟨b, last, hlast, hbound⟩ := hnext a grown (Nat.le_trans hgrown hroom)
  refine ⟨b, last, ?_, Nat.le_trans hbound hgrown⟩
  change (step layout).bind (fun result => next result.1 result.2) = _
  rw [hstep]
  exact hlast

/-- A greater budget is enough. -/
theorem Pays.mono (h : Pays step cost left) {more : Nat} (hcost : cost ≤ more) :
    Pays step more left := by
  intro layout hroom
  obtain ⟨a, grown, hstep, hgrown⟩ := h layout (by omega)
  exact ⟨a, grown, hstep, by omega⟩

theorem pays_addStates (count edges rest : Nat) :
    Pays (addStates count edges) (count * stateSize + edges + rest) fun _ => rest := by
  intro layout hroom
  have hsize : Layout.size ⟨layout.states + count, layout.edges + edges⟩ =
      layout.size + (count * stateSize + edges) := by
    simp only [Layout.size, Nat.add_mul]
    omega
  have hgrown : Layout.size ⟨layout.states + count, layout.edges + edges⟩ + rest ≤
      layout.size + (count * stateSize + edges + rest) := by
    omega
  exact ⟨layout.states, _, if_pos (by omega), hgrown⟩

theorem pays_addState (edges rest : Nat) :
    Pays (addState edges) (stateSize + edges + rest) fun _ => rest := by
  have hstate := pays_addStates 1 edges rest
  rwa [Nat.one_mul] at hstate

theorem pays_addForks (count rest : Nat) :
    Pays (addForks count) (count * forkSize + rest) fun _ => rest := by
  have hforks := pays_addStates 0 (count * forkSize) rest
  rw [Nat.zero_mul, Nat.zero_add] at hforks
  exact hforks.bind fun _ => pays_pure () fun _ => rest

/-- Letting another part follow takes one edge at most. -/
theorem pays_join (fragment : Fragment) (rest : Nat) :
    Pays fragment.join (forkSize + rest) fun _ => rest := by
  unfold Fragment.join
  split
  · exact (pays_addForks 1 rest).mono (by omega)
  · exact (pays_addForks 0 rest).mono (by omega)

end Budgets

/-! ## Sets of characters -/

/-- What it takes to finish an open state. -/
def OpenState.room (state : OpenState) : Nat :=
  stateSize + (state.edges.length + state.last.toList.length) * edgeSize

/-- What it takes to finish open states. -/
def rooms (states : List OpenState) : Nat :=
  (states.map OpenState.room).sum

theorem rooms_cons (state : OpenState) (states : List OpenState) :
    rooms (state :: states) = state.room + rooms states := by
  rw [rooms, List.map_cons, List.sum_cons, rooms]

theorem length_close (state : OpenState) (target : Nat) :
    (state.close target).edges.length = state.edges.length + state.last.toList.length := by
  unfold OpenState.close
  split
  · next bytes hlast => simp [hlast]
  · next hlast => simp [hlast]

theorem room_close (state : OpenState) (target : Nat) :
    (state.close target).room = state.room := by
  have hlast : (state.close target).last = none := by
    unfold OpenState.close
    split
    · rfl
    · assumption
  rw [OpenState.room, length_close, hlast]
  rfl

theorem pays_internState (table : StateTable) (edges : List Edge) (rest : Nat) :
    Pays (internState table edges) (stateSize + edges.length * edgeSize + rest) fun _ => rest := by
  have hnew : Pays (do
      let state ← addState (edges.length * edgeSize)
      return (state, table.insert (edgesPlace edges) (edges, state)))
      (stateSize + edges.length * edgeSize + rest) fun _ => rest :=
    (pays_addState _ rest).bind fun state => pays_pure _ fun _ => rest
  unfold internState
  dsimp only
  split
  · split
    · next known state _ _ =>
      exact (pays_pure (state, table) fun _ => rest).mono (by omega)
    · exact hnew
  · exact hnew

/-- **Finishing states is paid by their room**, and what is left has its own. -/
theorem pays_closeDown (keep : Nat) (states : List OpenState) (target : Nat) (table : StateTable)
    (rest : Nat) :
    Pays (closeDown keep states target table) (rooms states + rest) fun result =>
      rooms result.1 + rest := by
  induction states generalizing target table with
  | nil =>
    rw [closeDown]
    exact pays_pure ([], table) fun result => rooms result.1 + rest
  | cons deepest above ih =>
    rw [closeDown]
    split
    · have hroom : rooms (deepest.close target :: above) = rooms (deepest :: above) := by
        rw [rooms_cons, rooms_cons, room_close]
      rw [← hroom]
      exact pays_pure (deepest.close target :: above, table) fun result => rooms result.1 + rest
    · have hroom : rooms (deepest :: above) + rest = stateSize +
          (deepest.close target).edges.reverse.length * edgeSize + (rooms above + rest) := by
        rw [List.length_reverse, length_close, rooms_cons, OpenState.room, Nat.add_assoc]
      rw [hroom]
      exact (pays_internState table _ _).bind fun (state, table) => ih state table

/-- The number of bytes in sequences. -/
def lengths (sequences : List (List ByteSpan)) : Nat :=
  (sequences.map List.length).sum

theorem lengths_cons (bytes : List ByteSpan) (others : List (List ByteSpan)) :
    lengths (bytes :: others) = bytes.length + lengths others := by
  rw [lengths, List.map_cons, List.sum_cons, lengths]

/-- The states below the one that a sequence branches off from. -/
theorem rooms_fresh (fresh : List ByteSpan) :
    rooms ((fresh.map fun bytes => { last := some bytes : OpenState }).reverse) =
      fresh.length * (stateSize + edgeSize) := by
  have hroom (bytes : ByteSpan) :
      ({ last := some bytes : OpenState }).room = stateSize + edgeSize := rfl
  rw [rooms, List.map_reverse, List.sum_reverse, List.map_map]
  induction fresh with
  | nil => rw [List.map_nil, List.sum_nil, List.length_nil, Nat.zero_mul]
  | cons bytes fresh ih =>
    rw [List.map_cons, List.sum_cons, ih, Function.comp_apply, hroom, List.length_cons,
      Nat.succ_mul, Nat.add_comm]

theorem rooms_append (states others : List OpenState) :
    rooms (states ++ others) = rooms states + rooms others := by
  rw [rooms, List.map_append, List.sum_append]
  rfl

/-- The deepest state goes on with another sequence, which branches off from it. -/
theorem rooms_branch (fresh : List ByteSpan) (states : List OpenState) :
    rooms (((fresh.drop 1).map fun bytes => { last := some bytes : OpenState }).reverse ++
      match states with
      | deepest :: above => { deepest with last := fresh.head? } :: above
      | [] => []) ≤ rooms states + fresh.length * (stateSize + edgeSize) := by
  have hlast (deepest : OpenState) (above : List OpenState) (last : Option ByteSpan) :
      rooms ({ deepest with last := last } :: above) ≤
        rooms (deepest :: above) + last.toList.length * edgeSize := by
    simp only [rooms_cons, OpenState.room, Nat.add_mul]
    omega
  rw [rooms_append, rooms_fresh]
  cases fresh with
  | nil =>
    cases states with
    | nil => exact Nat.le_refl _
    | cons deepest above =>
      have hdeepest := hlast deepest above none
      simpa using hdeepest
  | cons bytes fresh =>
    rw [List.drop_one, List.tail_cons, List.length_cons, Nat.succ_mul]
    cases states with
    | nil => exact Nat.le_trans (Nat.le_add_right _ _) (Nat.le_add_left _ _)
    | cons deepest above =>
      have hdeepest := hlast deepest above (some bytes)
      rw [Option.toList_some, List.length_singleton, Nat.one_mul] at hdeepest
      dsimp only [List.head?_cons]
      omega

/-- **Adding sequences is paid by their bytes**: each may open a state with an edge. -/
theorem pays_addSequences (target : Nat) (sequences : List (List ByteSpan))
    (states : List OpenState) (table : StateTable) (rest : Nat) :
    Pays (addSequences target sequences states table)
      (rooms states + (lengths sequences * (stateSize + edgeSize) + rest)) fun result =>
        rooms result.1 + rest := by
  induction sequences generalizing states table with
  | nil =>
    rw [addSequences, lengths, List.map_nil, List.sum_nil, Nat.zero_mul, Nat.zero_add]
    exact pays_pure (states, table) fun result => rooms result.1 + rest
  | cons bytes others ih =>
    rw [addSequences]
    refine (pays_closeDown _ states target table _).bind fun (closed, table) => ?_
    refine (ih _ table).mono (Nat.le_trans (Nat.add_le_add_right (rooms_branch _ closed) _) ?_)
    have hfresh := Nat.mul_le_mul_right (stateSize + edgeSize)
      (List.drop_sublist (sharedBytes bytes states.reverse) bytes).length_le
    rw [lengths_cons, Nat.add_mul]
    dsimp only
    omega

/-- What it takes to lay out a set by its sequences, in either direction. -/
def setRoom (sequences : List (List ByteSpan)) : Nat :=
  2 * stateSize + lengths sequences * (stateSize + edgeSize) + sequences.length * forkSize

theorem pays_layForward (sequences : List (List ByteSpan)) (rest : Nat) :
    Pays (layForward sequences) (setRoom sequences + rest) fun _ => rest := by
  have hfinish (states : List OpenState) (table : StateTable) :
      Pays (do
        for root in states do
          let _ ← internState table root.edges.reverse
        return ({} : Fragment)) (rooms states + rest) fun _ => rest := by
    induction states with
    | nil =>
      rw [List.forIn_nil, pure_bind]
      exact (pays_pure ({} : Fragment) fun _ => rest).mono (by omega)
    | cons root states ih =>
      simp only [List.forIn_cons, bind_assoc, pure_bind]
      have hroom : stateSize + root.edges.reverse.length * edgeSize + (rooms states + rest) ≤
          rooms (root :: states) + rest := by
        rw [List.length_reverse, rooms_cons, OpenState.room, Nat.add_mul]
        omega
      exact ((pays_internState table root.edges.reverse _).bind fun _ => ih).mono hroom
  have hroom : setRoom sequences + rest = stateSize + 0 + (rooms [{}] +
      (lengths sequences * (stateSize + edgeSize) + (sequences.length * forkSize + rest))) := by
    have hroot : rooms [{}] = stateSize := rfl
    rw [setRoom, hroot]
    omega
  rw [layForward, hroom]
  refine (pays_addState 0 _).bind fun target => ?_
  refine (pays_addSequences target sequences [{}] {} _).bind fun (states, table) => ?_
  refine (pays_closeDown 1 states target table _).bind fun (states, table) => ?_
  exact (hfinish states table).mono (Nat.add_le_add_left (Nat.le_add_left _ _) _)

/-- A sequence read backwards takes a state for each byte and an edge. -/
theorem pays_laySequence (table : Std.HashMap Nat (Edge × Nat)) (target : Nat)
    (bytes : List ByteSpan) (rest : Nat) :
    Pays (laySequence table target bytes)
      (bytes.length * stateSize + (forkSize + rest)) fun _ => rest := by
  induction bytes generalizing table target with
  | nil =>
    rw [laySequence]
    refine ((pays_addForks 1 rest).bind fun _ => pays_pure table fun _ => rest).mono ?_
    omega
  | cons span bytes ih =>
    have hroom : (span :: bytes).length * stateSize + (forkSize + rest) =
        stateSize + 0 + (bytes.length * stateSize + (forkSize + rest)) := by
      rw [List.length_cons, Nat.succ_mul]
      omega
    rw [laySequence, hroom]
    split
    · exact (ih table _).mono (by omega)
    · exact (pays_addState 0 _).bind fun state => ih _ state

theorem pays_layBackward (sequences : List (List ByteSpan)) (rest : Nat) :
    Pays (layBackward sequences) (setRoom sequences + rest) fun _ => rest := by
  have hall (stop : Nat) (table : Std.HashMap Nat (Edge × Nat)) :
      Pays (sequences.foldlM (fun table bytes => laySequence table stop bytes) table)
        (lengths sequences * stateSize + sequences.length * forkSize + rest) fun _ => rest := by
    induction sequences generalizing table with
    | nil =>
      rw [List.foldlM_nil]
      exact (pays_pure table fun _ => rest).mono (Nat.le_add_left _ _)
    | cons bytes others ih =>
      have hroom : lengths (bytes :: others) * stateSize + (bytes :: others).length * forkSize +
          rest = bytes.length * stateSize + (forkSize +
            (lengths others * stateSize + others.length * forkSize + rest)) := by
        rw [lengths_cons, List.length_cons, Nat.add_mul, Nat.succ_mul]
        omega
      rw [List.foldlM_cons, hroom]
      exact (pays_laySequence table stop bytes _).bind fun table => ih table
  rw [layBackward]
  refine Pays.mono ((pays_addState 0 _).bind fun _ => (pays_addState 0 _).bind fun stop =>
    (hall stop {}).bind fun _ => pays_pure _ fun _ => rest) ?_
  rw [setRoom, Nat.mul_add]
  omega

theorem pays_laySet (backward : Bool) (set : CharSet) (sequences : List (List ByteSpan))
    (rest : Nat) :
    Pays (laySet backward set sequences)
      (setRoom sequences + set.spans.size * edgeSize + rest) fun _ => rest := by
  unfold laySet
  split
  · refine ((pays_addStates 2 _ rest).bind fun _ => pays_pure _ fun _ => rest).mono ?_
    rw [setRoom]
    omega
  · split
    · exact (pays_layBackward sequences rest).mono (by omega)
    · exact (pays_layForward sequences rest).mono (by omega)

/-! ## Rows -/

/-- **Shapes of single items**: texts, sets, conditions, and such that may be left out. -/
inductive Shape.Simple : Shape → Prop
  | text (cs : List Char) : Simple (.text cs)
  | set (members : CharSet) (sequences : List (List ByteSpan)) : Simple (.set members sequences)
  | look (condition : Look) : Simple (.look condition)
  | optional (greedy : Bool) {body : Shape} (h : body.Simple) :
    Simple (.loop 0 (some 1) greedy body)

/-- What it takes to lay out a single item, in either direction. -/
def Shape.room : Shape → Nat
  | .text cs => (encodeChars cs).length * stateSize
  | .set members sequences => setRoom sequences + members.spans.size * edgeSize
  | .loop _ _ _ body => body.room + (2 * stateSize + 3 * forkSize)
  | _ => stateSize

/-- What it takes to lay out items in a row. -/
def rowRoom (shapes : List Shape) : Nat :=
  (shapes.map fun shape => shape.room + forkSize).sum

theorem rowRoom_cons (shape : Shape) (shapes : List Shape) :
    rowRoom (shape :: shapes) = shape.room + forkSize + rowRoom shapes := by
  rw [rowRoom, List.map_cons, List.sum_cons, rowRoom]

/-- **A single item is paid by its room.** -/
theorem Shape.Simple.pays {shape : Shape} (h : shape.Simple) (backward : Bool) (rest : Nat) :
    Pays (lay backward shape) (shape.room + rest) fun _ => rest := by
  induction h generalizing rest with
  | text cs =>
    rw [lay]
    exact ((pays_addStates _ 0 rest).bind fun _ => pays_pure _ fun _ => rest).mono
      (Nat.le_refl _)
  | set members sequences =>
    rw [lay]
    exact pays_laySet backward members sequences rest
  | look condition =>
    rw [lay]
    exact ((pays_addState 0 rest).bind fun _ => pays_pure _ fun _ => rest).mono (Nat.le_refl _)
  | @optional greedy body hbody ih =>
    rw [lay, layMaybe]
    refine Pays.mono ((pays_addState 0 _).bind fun _ => (ih _).bind fun body =>
      (pays_addStates 1 _ _).bind fun _ => (pays_join body _).bind fun _ =>
        pays_pure _ fun _ => rest) ?_
    rw [Shape.room]
    omega

/-- Linking to what follows, which is laid out first if read backwards. -/
theorem pays_linkBack (after : Option Fragment) (before : Fragment) (rest : Nat) :
    Pays (do
      match after with
      | some after => after.join
      | none => pure ()
      return some before) (forkSize + rest) fun _ => rest := by
  cases after with
  | none => exact (pays_pure (some before) fun _ => rest).mono (Nat.le_add_left _ _)
  | some after => exact (pays_join after rest).bind fun _ => pays_pure _ fun _ => rest

/-- Linking to what follows, which is laid out last if read forwards. -/
theorem pays_linkOn (before : Fragment) (after : Option Fragment) (rest : Nat) :
    Pays (do
      match after with
      | some after =>
        before.join
        return some after
      | none => return some before) (forkSize + rest) fun _ => rest := by
  cases after with
  | none => exact (pays_pure (some before) fun _ => rest).mono (Nat.le_add_left _ _)
  | some after => exact (pays_join before rest).bind fun _ => pays_pure _ fun _ => rest

theorem pays_layRow {parts : List Shape} (hparts : ∀ part ∈ parts, part.Simple) (backward : Bool)
    (rest : Nat) : Pays (layRow backward parts) (rowRoom parts + rest) fun _ => rest := by
  induction parts generalizing rest with
  | nil =>
    rw [layRow]
    exact (pays_pure none fun _ => rest).mono (Nat.le_add_left _ _)
  | cons part parts ih =>
    have hpart : part.Simple := hparts part List.mem_cons_self
    have htail := ih fun other hmem => hparts other (List.mem_cons_of_mem _ hmem)
    rw [rowRoom_cons, layRow]
    split
    · -- What is read backwards is laid out from its end.
      refine Pays.mono ((htail (part.room + (forkSize + rest))).bind fun after =>
        (hpart.pays backward (forkSize + rest)).bind fun before =>
          pays_linkBack after before rest) ?_
      omega
    · refine Pays.mono ((hpart.pays backward (rowRoom parts + (forkSize + rest))).bind fun before =>
        (htail (forkSize + rest)).bind fun after => pays_linkOn before after rest) ?_
      omega

/-- Joining neighbouring texts keeps to single items and takes no more room. -/
theorem simple_joinTexts {shapes : List Shape} (h : ∀ shape ∈ shapes, shape.Simple) :
    (∀ shape ∈ Shape.joinTexts shapes, shape.Simple) ∧
      rowRoom (Shape.joinTexts shapes) ≤ rowRoom shapes := by
  have hcons {shape : Shape} {shapes others : List Shape} (hshape : shape.Simple)
      (hothers : (∀ other ∈ others, other.Simple) ∧ rowRoom others ≤ rowRoom shapes) :
      (∀ other ∈ shape :: others, other.Simple) ∧
        rowRoom (shape :: others) ≤ rowRoom (shape :: shapes) := by
    rw [rowRoom_cons, rowRoom_cons]
    exact ⟨List.forall_mem_cons.mpr ⟨hshape, hothers.1⟩, Nat.add_le_add_left hothers.2 _⟩
  induction shapes with
  | nil => exact ⟨nofun, Nat.le_refl _⟩
  | cons shape shapes ih =>
    obtain ⟨hshape, hshapes⟩ := List.forall_mem_cons.mp h
    have htail := ih hshapes
    unfold Shape.joinTexts
    split
    · cases ‹_ = []›
    · next a rest heq =>
      obtain ⟨rfl, rfl⟩ := List.cons.inj heq
      split
      · next b others hjoined =>
        rw [hjoined] at htail
        obtain ⟨hsimple, hroom⟩ := htail
        obtain ⟨-, hothers⟩ := List.forall_mem_cons.mp hsimple
        have hboth : (Shape.text (a ++ b)).room = (Shape.text a).room + (Shape.text b).room := by
          simp only [Shape.room, encodeChars, List.flatMap_append, List.length_append, Nat.add_mul]
        refine ⟨List.forall_mem_cons.mpr ⟨.text _, hothers⟩, ?_⟩
        rw [rowRoom_cons] at hroom
        rw [rowRoom_cons, rowRoom_cons, hboth]
        omega
      · exact hcons hshape htail
    · next other rest _ heq =>
      obtain ⟨rfl, rfl⟩ := List.cons.inj heq
      exact hcons hshape htail

/-- Items in a row are as they stand, but for neighbouring texts. -/
theorem row_simple {shapes : List Shape} (h : ∀ shape ∈ shapes, shape.Simple) :
    Shape.row shapes = match Shape.joinTexts shapes with
      | [] => .empty
      | [part] => part
      | parts => .cat parts := by
  have hparts : shapes.flatMap Shape.parts = shapes := by
    induction shapes with
    | nil => rfl
    | cons shape shapes ih =>
      obtain ⟨hshape, hshapes⟩ := List.forall_mem_cons.mp h
      rw [List.flatMap_cons, ih hshapes]
      cases hshape <;> rfl
  unfold Shape.row
  generalize shapes.flatMap Shape.parts = parts at hparts ⊢
  subst hparts
  rfl

/-- A row is not a choice. -/
theorem alternatives_row {shapes : List Shape} (h : ∀ shape ∈ shapes, shape.Simple) :
    (Shape.row shapes).alternatives = [Shape.row shapes] := by
  have hsimple := (simple_joinTexts h).1
  rw [row_simple h]
  split
  · rfl
  · next part hjoined =>
    have hpart : part.Simple := hsimple part (hjoined ▸ List.mem_singleton_self part)
    cases hpart <;> rfl
  · rfl

/-- **Items in a row are paid by their room.** -/
theorem pays_row {shapes : List Shape} (h : ∀ shape ∈ shapes, shape.Simple) (backward : Bool)
    (rest : Nat) :
    Pays (lay backward (Shape.row shapes)) (rowRoom shapes + stateSize + rest) fun _ => rest := by
  obtain ⟨hsimple, hroom⟩ := simple_joinTexts h
  rw [row_simple h]
  split
  · rw [lay]
    refine ((pays_addState 0 rest).bind fun _ => pays_pure _ fun _ => rest).mono ?_
    omega
  · next part hjoined =>
    rw [hjoined, rowRoom_cons] at hroom
    have hpart : part.Simple := hsimple part (hjoined ▸ List.mem_singleton_self part)
    exact (hpart.pays backward rest).mono (by omega)
  · rw [lay]
    refine ((pays_layRow hsimple backward rest).bind fun _ => pays_pure _ fun _ => rest).mono ?_
    omega

/-- What it takes to search for a row anywhere in a text, beside the row itself. -/
def wholeRoom : Nat :=
  7 * stateSize + edgeSize + 3 * forkSize

/-- **Items in a row fit** if there is room for them. -/
theorem fits_row {shapes : List Shape} (h : ∀ shape ∈ shapes, shape.Simple)
    (hroom : rowRoom shapes + wholeRoom ≤ limit) :
    fits (Shape.choice [Shape.row shapes]) = true := by
  have hchoice : Shape.choice [Shape.row shapes] = Shape.row shapes := by
    rw [Shape.choice, List.flatMap_singleton, alternatives_row h, Shape.choiceOf]
  have hgroup (backward : Bool) (rest : Nat) :
      Pays (lay backward (.group (Shape.row shapes)))
        (rowRoom shapes + 3 * stateSize + forkSize + rest) fun _ => rest := by
    rw [lay]
    split
    · exact (pays_row h backward rest).mono (by omega)
    · refine Pays.mono ((pays_addState 0 _).bind fun _ => (pays_row h backward _).bind fun inner =>
        (pays_addState 0 _).bind fun _ => (pays_join inner _).bind fun _ =>
          pays_pure _ fun _ => rest) ?_
      omega
  have hwhole (backward : Bool) :
      Pays (layWhole backward (Shape.row shapes)) (rowRoom shapes + wholeRoom) fun _ => 0 := by
    unfold layWhole
    generalize Shape.anchored _ backward (Shape.row shapes) = anchored
    cases anchored with
    | true =>
      refine Pays.mono ((pays_addState 0 _).bind fun _ => (hgroup backward _).bind fun _ =>
        (pays_addState 0 _).bind fun _ => pays_pure () fun _ => 0) ?_
      rw [wholeRoom]
      omega
    | false =>
      refine Pays.mono ((pays_addStates 3 _ _).bind fun _ => (hgroup backward _).bind fun _ =>
        (pays_addState 0 _).bind fun _ => pays_pure () fun _ => 0) ?_
      rw [wholeRoom]
      omega
  have hstart (backward : Bool) : ((layWhole backward (Shape.row shapes)).run {}).isSome := by
    have hsize : Layout.size {} = 0 := rfl
    obtain ⟨a, grown, hrun, -⟩ := hwhole backward {} (by rw [hsize, Nat.zero_add]; exact hroom)
    exact Option.isSome_of_eq_some hrun
  rw [hchoice, fits, hstart false, hstart true]
  rfl

end Folio.Pattern
