import Mathlib.Data.List.Basic
import Folio.Pattern.Expression

/-!
# What an expression matches

An expression matches stretches of a text, each between two positions. A row matches what its parts
match one after the other, and a loop what its body matches round by round.

* `Look.HoldsAt`: a condition at a position in a text.
* `Rounds`: a number of stretches one after the other.
* **`Node.Spans`**: the stretches that an expression matches.
* `spans_sequence`: rows.
-/

namespace Folio.Pattern

/-- The character before a position. -/
def charBefore (cs : List Char) (i : Nat) : Option Char :=
  (cs.take i).getLast?

/-- Is the condition met at a position? -/
def Look.HoldsAt (look : Look) (cs : List Char) (i : Nat) : Prop :=
  look.holds (charBefore cs i) cs[i]?

/-- A number of stretches one after the other. -/
def Rounds (R : Nat → Nat → Prop) : Nat → Nat → Nat → Prop
  | 0, i, k => i = k
  | count + 1, i, k => ∃ j, R i j ∧ Rounds R count j k

/-- **The stretches of a text that an expression matches.** -/
def Node.Spans (cs : List Char) : Node → Nat → Nat → Prop
  | .empty, i, j => i = j
  | .one set, i, j => (∃ c ∈ cs[i]?, set.has c) ∧ i + 1 = j
  | .look condition, i, j => condition.HoldsAt cs i ∧ i = j
  | .group _ _ body, i, j => body.Spans cs i j
  | .cat first second, i, k => ∃ j, first.Spans cs i j ∧ second.Spans cs j k
  | .alt first second, i, j => first.Spans cs i j ∨ second.Spans cs i j
  | .loop least most _ body, i, j =>
    ∃ count, least ≤ count ∧ (∀ bound ∈ most, count ≤ max least bound) ∧
      Rounds (body.Spans cs) count i j

/-! ## Rounds -/

section Rounds

variable {R : Nat → Nat → Prop} {i j k : Nat}

theorem Rounds.append {m n : Nat} (h : Rounds R m i j) (hmore : Rounds R n j k) :
    Rounds R (m + n) i k := by
  induction m generalizing i with
  | zero =>
    obtain rfl : i = j := h
    rwa [Nat.zero_add]
  | succ m ih =>
    obtain ⟨mid, hfirst, hrest⟩ := h
    rw [Nat.add_right_comm]
    exact ⟨mid, hfirst, ih hrest⟩

theorem Rounds.single (h : R i j) : Rounds R 1 i j := ⟨j, h, rfl⟩

theorem rounds_add_iff {m n : Nat} :
    Rounds R (m + n) i k ↔ ∃ j, Rounds R m i j ∧ Rounds R n j k := by
  refine ⟨fun h => ?_, fun ⟨j, hfirst, hrest⟩ => hfirst.append hrest⟩
  induction m generalizing i with
  | zero => exact ⟨i, rfl, Nat.zero_add n ▸ h⟩
  | succ m ih =>
    rw [Nat.add_right_comm] at h
    obtain ⟨mid, hfirst, hrest⟩ := h
    obtain ⟨j, hmid, hlast⟩ := ih hrest
    exact ⟨j, ⟨mid, hfirst, hmid⟩, hlast⟩

/-- The last round set apart. -/
theorem rounds_succ_iff {n : Nat} : Rounds R (n + 1) i k ↔ ∃ j, Rounds R n i j ∧ R j k := by
  rw [rounds_add_iff]
  refine exists_congr fun j => and_congr_right fun _ => ?_
  exact ⟨fun ⟨_, h, heq⟩ => heq ▸ h, .single⟩

end Rounds

/-! ## Rows -/

/-- Stretches of expressions in a row. -/
def SpansRow (cs : List Char) : List Node → Nat → Nat → Prop
  | [], i, k => i = k
  | node :: rest, i, k => ∃ j, node.Spans cs i j ∧ SpansRow cs rest j k

variable {cs : List Char} {i k : Nat}

theorem spansRow_append {front back : List Node} :
    SpansRow cs (front ++ back) i k ↔ ∃ j, SpansRow cs front i j ∧ SpansRow cs back j k := by
  induction front generalizing i with
  | nil => exact ⟨fun h => ⟨i, rfl, h⟩, fun ⟨_, heq, h⟩ => heq ▸ h⟩
  | cons node front ih =>
    constructor
    · rintro ⟨mid, hnode, hrest⟩
      obtain ⟨j, hfront, hback⟩ := ih.mp hrest
      exact ⟨j, ⟨mid, hnode, hfront⟩, hback⟩
    · rintro ⟨j, ⟨mid, hnode, hfront⟩, hback⟩
      exact ⟨mid, hnode, ih.mpr ⟨j, hfront, hback⟩⟩

theorem spans_sequence {nodes : List Node} :
    (Node.sequence nodes).Spans cs i k ↔ SpansRow cs nodes i k := by
  have hfold (nodes : List Node) (first : Node) :
      (nodes.foldl Node.cat first).Spans cs i k ↔
        ∃ j, first.Spans cs i j ∧ SpansRow cs nodes j k := by
    induction nodes generalizing first with
    | nil => exact ⟨fun h => ⟨k, h, rfl⟩, fun ⟨_, h, heq⟩ => heq ▸ h⟩
    | cons node nodes ih =>
      rw [List.foldl_cons, ih]
      constructor
      · rintro ⟨j, ⟨mid, hfirst, hnode⟩, hrest⟩
        exact ⟨mid, hfirst, j, hnode, hrest⟩
      · rintro ⟨mid, hfirst, j, hnode, hrest⟩
        exact ⟨j, ⟨mid, hfirst, hnode⟩, hrest⟩
  cases nodes with
  | nil => exact Iff.rfl
  | cons node nodes => exact hfold nodes node

end Folio.Pattern
