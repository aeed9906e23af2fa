import Folio.Proofs.Pattern.Ending
import Folio.Proofs.Pattern.Fitting

/-!
# Patterns that compile

The automaton of a text between the anchors takes some hundreds of bytes for each character: a
character has four variants at most, and a variant four bytes. So a pattern of some thousand
characters always compiles.

* `spanSequences_le`, `byteSequences_le`: the sequences of a set of characters.
* `room_closeChar_le`: what a character takes with its variants.
* **`compile?_closed`**, **`compile?_optional`**: texts between the anchors compile.
-/

namespace Folio.Pattern

open Unicode (CharSet)

/-! ## Sequences of bytes -/

theorem length_encodeScalar_le (n : Nat) : (encodeScalar n).length ≤ 4 := by
  unfold encodeScalar
  split_ifs <;> simp

/-- A span has no more sequences than characters, each of four bytes at most. -/
theorem spanSequences_le (lo hi : Nat) :
    (spanSequences lo hi).length ≤ hi + 1 - lo ∧
      ∀ bytes ∈ spanSequences lo hi, bytes.length ≤ 4 := by
  fun_induction spanSequences lo hi with
  | case1 lo hi hempty => exact ⟨Nat.zero_le _, nofun⟩
  | case2 lo hi hspan hcut =>
    refine ⟨?_, List.forall_mem_singleton.mpr ?_⟩
    · rw [List.length_singleton]
      omega
    · rw [List.length_zipWith]
      exact Nat.le_trans (Nat.min_le_left _ _) (length_encodeScalar_le lo)
  | case3 lo hi hspan last hcut hlast ihfirst ihrest =>
    refine ⟨?_, List.forall_mem_append.mpr ⟨ihfirst.2, ihrest.2⟩⟩
    have hnext : last + 1 ≤ Unicode.nextScalar last := by
      unfold Unicode.nextScalar
      split <;> omega
    have hfirst := ihfirst.1
    have hrest := ihrest.1
    rw [List.length_append]
    omega
  | case4 lo hi hspan last hcut hlast => exact ⟨Nat.zero_le _, nofun⟩

theorem byteSequences_le (set : CharSet) :
    (byteSequences set).length ≤ CharSet.width set.spans.toList ∧
      ∀ bytes ∈ byteSequences set, bytes.length ≤ 4 := by
  unfold byteSequences
  induction set.spans.toList with
  | nil => exact ⟨Nat.le_refl _, nofun⟩
  | cons span spans ih =>
    obtain ⟨hcount, hbytes⟩ := spanSequences_le span.lo span.hi
    rw [List.flatMap_cons, List.length_append, CharSet.width_cons]
    exact ⟨Nat.add_le_add hcount ih.1, List.forall_mem_append.mpr ⟨hbytes, ih.2⟩⟩

theorem lengths_le {sequences : List (List ByteSpan)} (h : ∀ bytes ∈ sequences, bytes.length ≤ 4) :
    lengths sequences ≤ sequences.length * 4 := by
  induction sequences with
  | nil => exact Nat.le_refl _
  | cons bytes others ih =>
    obtain ⟨hbytes, hothers⟩ := List.forall_mem_cons.mp h
    rw [lengths_cons, List.length_cons, Nat.succ_mul]
    have htail := ih hothers
    omega

/-! ## Items -/

theorem simple_ofSet (set : CharSet) : (Shape.ofSet set).Simple := by
  unfold Shape.ofSet
  split
  · exact .text _
  · exact .set _ _

/-- The room of a character with its variants. -/
def charRoom : Nat :=
  2 * stateSize + 16 * (stateSize + edgeSize) + 4 * forkSize + 4 * edgeSize

theorem room_closeChar_le (c : Char) :
    (Shape.ofSet (patternFlags.closeChar c)).room ≤ charRoom := by
  have hclose : patternFlags.closeChar c = CharSet.ofChars (Unicode.caseVariants c) := rfl
  obtain ⟨hwidth, hsize⟩ := CharSet.ofChars_le (Unicode.caseVariants c)
  have hvariants := Unicode.length_caseVariants_le c
  rw [hclose]
  generalize CharSet.ofChars (Unicode.caseVariants c) = set at hwidth hsize ⊢
  unfold Shape.ofSet
  split
  · next d _ =>
    have hbytes := length_encodeScalar_le d.toNat
    rw [Shape.room, encodeChars, List.flatMap_singleton]
    have hroom := Nat.mul_le_mul_right stateSize hbytes
    exact Nat.le_trans hroom (by decide)
  · obtain ⟨hcount, hbytes⟩ := byteSequences_le set
    have hlengths := lengths_le hbytes
    have hcost : lengths (byteSequences set) * (stateSize + edgeSize) ≤
        16 * (stateSize + edgeSize) := Nat.mul_le_mul_right _ (by omega)
    have hforks : (byteSequences set).length * forkSize ≤ 4 * forkSize :=
      Nat.mul_le_mul_right _ (by omega)
    have hedges : set.spans.size * edgeSize ≤ 4 * edgeSize := Nat.mul_le_mul_right _ (by omega)
    rw [Shape.room, setRoom, charRoom]
    omega

/-! ## Patterns -/

theorem foldl_max_le {depths : List Nat} {least bound : Nat} (hleast : least ≤ bound)
    (h : ∀ depth ∈ depths, depth ≤ bound) : depths.foldl max least ≤ bound := by
  induction depths generalizing least with
  | nil => exact hleast
  | cons depth depths ih =>
    obtain ⟨hdepth, hdepths⟩ := List.forall_mem_cons.mp h
    exact ih (Nat.max_le.mpr ⟨hleast, hdepth⟩) hdepths

/-- Items that do not nest make up a pattern that hardly does. -/
theorem depth_wholeItem_le {items : List Item} (h : ∀ item ∈ items, item.depth ≤ 1) :
    (wholeItem items).depth ≤ 2 := by
  have hdepths : ((items.map Item.depth).foldl max 0) ≤ 1 :=
    foldl_max_le (Nat.zero_le 1) (List.forall_mem_map.mpr h)
  have hrow : (Item.row items.length items).depth ≤ 2 := by
    change Item.depthOf items.length items ≤ 2
    unfold Item.depthOf
    dsimp only
    split <;> omega
  have hwhole : (wholeItem items).depth = max 0 (Item.row items.length items).depth := rfl
  rw [hwhole]
  omega

/-- **Single items in a row compile** if there is room for them. -/
theorem compile?_row {pattern : String} {items : List Item}
    (hread : read? pattern = some (wholeItem items)) (hdepth : ∀ item ∈ items, item.depth ≤ 1)
    (hsimple : ∀ item ∈ items, item.shape.Simple)
    (hroom : rowRoom (items.map Item.shape) + wholeRoom ≤ limit) : (compile? pattern).isSome := by
  have hfits : fits (wholeItem items).shape = true :=
    fits_row (List.forall_mem_map.mpr hsimple) hroom
  have hnest : (wholeItem items).depth ≤ maxNest :=
    Nat.le_trans (depth_wholeItem_le hdepth) (by decide)
  rw [compile?, hread]
  dsimp only
  rw [hfits, decide_eq_true hnest]
  rfl

theorem rowRoom_append (shapes others : List Shape) :
    rowRoom (shapes ++ others) = rowRoom shapes + rowRoom others := by
  rw [rowRoom, List.map_append, List.sum_append]
  rfl

/-- The room of the anchor and a text. -/
theorem rowRoom_anchored_le (text : List Char) :
    rowRoom ((anchored text).map Item.shape) ≤
      text.length * (charRoom + forkSize) + (stateSize + forkSize) := by
  rw [anchored, List.map_cons, rowRoom_cons, Nat.add_comm]
  refine Nat.add_le_add ?_ (Nat.le_refl _)
  induction text with
  | nil => exact Nat.zero_le _
  | cons c text ih =>
    have hchar := room_closeChar_le c
    have hshape : (Item.ofSet (patternFlags.closeChar c)).shape =
        Shape.ofSet (patternFlags.closeChar c) := rfl
    rw [textItems, List.map_cons, List.map_cons, rowRoom_cons, hshape, List.length_cons,
      Nat.succ_mul]
    have htail : rowRoom ((List.map (fun c => Item.ofSet (patternFlags.closeChar c)) text).map
        Item.shape) ≤ text.length * (charRoom + forkSize) := ih
    omega

theorem anchored_items (text : List Char) :
    ∀ item ∈ anchored text, item.depth ≤ 1 ∧ item.shape.Simple := by
  refine List.forall_mem_cons.mpr ⟨⟨Nat.zero_le 1, .look _⟩, fun item hmem => ?_⟩
  obtain ⟨c, -, rfl⟩ := List.mem_map.mp hmem
  exact ⟨Nat.zero_le 1, simple_ofSet _⟩

/-- Behind the anchor and a text some more items compile. -/
theorem compile?_anchored {pattern : String} {text : List Char} {rest : List Item}
    (hread : read? pattern = some (wholeItem (anchored text ++ rest)))
    (hrest : ∀ item ∈ rest, item.depth ≤ 1 ∧ item.shape.Simple)
    (hroom : rowRoom (rest.map Item.shape) ≤ 2000) (hlength : text.length ≤ 10000) :
    (compile? pattern).isSome := by
  have hitems : ∀ item ∈ anchored text ++ rest, item.depth ≤ 1 ∧ item.shape.Simple :=
    List.forall_mem_append.mpr ⟨anchored_items text, hrest⟩
  refine compile?_row hread (fun item hmem => (hitems item hmem).1)
    (fun item hmem => (hitems item hmem).2) ?_
  have hanchored := rowRoom_anchored_le text
  have hlong := Nat.mul_le_mul_right (charRoom + forkSize) hlength
  have hlimit : 10000 * (charRoom + forkSize) + (stateSize + forkSize) + 2000 + wholeRoom ≤
      limit := by decide
  rw [List.map_append, rowRoom_append]
  omega

theorem look_item (condition : Look) :
    (Item.ofLook condition).depth ≤ 1 ∧ (Item.ofLook condition).shape.Simple :=
  ⟨Nat.zero_le 1, .look condition⟩

/-- **A text between the anchors compiles.** -/
theorem compile?_closed {pattern : String} {text : List Char}
    (hpattern : pattern.toList = '^' :: (text ++ ['$'])) (htext : IsPlain text)
    (hlength : text.length ≤ 10000) : (compile? pattern).isSome :=
  compile?_anchored (read?_closed hpattern htext) (List.forall_mem_singleton.mpr (look_item _))
    (by decide) hlength

/-- **So it does with an optional character behind it.** -/
theorem compile?_optional {pattern : String} {text : List Char} {c : Char}
    (hpattern : pattern.toList = '^' :: (text ++ [c, '?', '$'])) (htext : IsPlain text)
    (hc : isOperator c = false) (hlength : text.length ≤ 10000) : (compile? pattern).isSome := by
  have hread := read?_optional hpattern htext hc
  rw [closedOptional, repeated_optional] at hread
  refine compile?_anchored hread (List.forall_mem_cons.mpr
    ⟨⟨Nat.le_refl 1, (simple_ofSet _).optional true⟩,
      List.forall_mem_singleton.mpr (look_item _)⟩) ?_ hlength
  have hchar := room_closeChar_le c
  have hrow : rowRoom [Shape.loop 0 (some 1) true (Shape.ofSet (patternFlags.closeChar c)),
      .look .textEnd] = (Shape.ofSet (patternFlags.closeChar c)).room +
        (2 * stateSize + 3 * forkSize) + forkSize + (stateSize + forkSize) := rfl
  have hbound : charRoom + (2 * stateSize + 3 * forkSize) + forkSize + (stateSize + forkSize) ≤
      2000 := by decide
  exact Nat.le_trans (Nat.le_of_eq hrow) (by omega)

end Folio.Pattern
