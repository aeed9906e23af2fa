import Folio.Proofs.Pattern.Beginning

/-!
# Patterns that are a text from end to end

Between the anchors `^` and `$` a text matches what is equal to it up to case and nothing else, and
the character before the `$` may be made optional by a question mark.

* `readItems_dollar`, `readItems_optional`: reading the end of such a pattern.
* `spans_optional`, `spansRow_optional`: what an optional item matches.
* `spans_closed`: what a row between the anchors matches.
* `closed`, `closedOptional`, `read?_closed`, `read?_optional`: the items of such patterns.
* **`search_closed`**, **`search_optional`**: what these patterns match.
-/

namespace Folio.Pattern

open Unicode (foldCase)

/-! ## Reading -/

theorem readItems_dollar {level : Level} {cursor : Cursor} {rest : List Char} {fuel : Nat}
    (hverbose : level.flags.verbose = false) (hrest : cursor.rest = '$' :: rest) :
    readItems (fuel + 1) level cursor =
      readItems fuel (level.push (.ofLook (endLook level.flags)))
        { cursor with rest := rest } := by
  rw [readItems, skipSpace_of_plain hverbose, hrest]
  rfl

/-- A question mark repeats the last item at most once. -/
theorem readItems_question {level : Level} {cursor : Cursor} {rest : List Char} {fuel : Nat}
    (hverbose : level.flags.verbose = false) (hrest : cursor.rest = '?' :: rest) :
    readItems (fuel + 1) level cursor =
      match level.repeatLast 0 (some 1) (readLazy rest).1 with
      | none => none
      | some level => readItems fuel level { cursor with rest := (readLazy rest).2 } := by
  rw [readItems, skipSpace_of_plain hverbose, hrest]
  rfl

/-- A question mark that no other one follows makes the last item optional. -/
theorem readItems_optional {level : Level} {cursor : Cursor} {item : Item}
    {row : List (Option Item)} {rest : List Char} {fuel : Nat}
    (hverbose : level.flags.verbose = false) (hrow : level.row = some item :: row)
    (hrest : cursor.rest = '?' :: rest) (hnext : rest.head? ≠ some '?') :
    readItems (fuel + 1) level cursor =
      readItems fuel { level with
          row := some (item.repeated 0 (some 1) (false == level.flags.swapGreed)) :: row }
        { cursor with rest := rest } := by
  have hlazy : readLazy rest = (false, rest) := by
    unfold readLazy
    split
    · exact absurd rfl hnext
    · rfl
  have hrepeat : level.repeatLast 0 (some 1) false = some { level with
      row := some (item.repeated 0 (some 1) (false == level.flags.swapGreed)) :: row } := by
    rw [Level.repeatLast, hrow]
  rw [readItems_question hverbose hrest, hlazy, hrepeat]

/-- An optional item is a loop of one round at most, whatever the item is. -/
theorem repeated_optional (item : Item) (greedy : Bool) :
    item.repeated 0 (some 1) greedy =
      ⟨.loop 0 (some 1) greedy item.node, .loop 0 (some 1) greedy item.shape, item.depth + 1⟩ := by
  have hbounds : item.shape.bounds 0 (some 1) = (0, some 1) := by
    unfold Shape.bounds
    split <;> rfl
  rw [Item.repeated, hbounds]
  rfl

/-! ## Matching -/

section Spans

variable {cs : List Char} {i k : Nat}

theorem spans_optional {node : Node} {greedy : Bool} :
    (Node.loop 0 (some 1) greedy node).Spans cs i k ↔ i = k ∨ node.Spans cs i k := by
  simp only [Node.Spans]
  constructor
  · rintro ⟨count, -, hmost, hrounds⟩
    have hcount : count ≤ 1 := hmost 1 rfl
    obtain rfl | rfl : count = 0 ∨ count = 1 := by omega
    · exact .inl hrounds
    · obtain ⟨_, hspans, heq⟩ := hrounds
      exact .inr (heq ▸ hspans)
  · rintro (heq | hspans)
    · exact ⟨0, Nat.le_refl 0, fun _ _ => Nat.zero_le _, heq⟩
    · exact ⟨1, Nat.zero_le 1, fun bound hbound => Option.some.inj hbound ▸ Nat.le_refl 1,
        .single hspans⟩

/-- A row with an optional part is the row without it or with it. -/
theorem spansRow_optional {front back : List Node} {node : Node} {greedy : Bool} :
    SpansRow cs (front ++ .loop 0 (some 1) greedy node :: back) i k ↔
      SpansRow cs (front ++ back) i k ∨ SpansRow cs (front ++ node :: back) i k := by
  simp only [spansRow_append, SpansRow, spans_optional]
  constructor
  · rintro ⟨j, hfront, mid, rfl | hnode, hback⟩
    · exact .inl ⟨j, hfront, hback⟩
    · exact .inr ⟨j, hfront, mid, hnode, hback⟩
  · rintro (⟨j, hfront, hback⟩ | ⟨j, hfront, mid, hnode, hback⟩)
    · exact ⟨j, hfront, j, .inl rfl, hback⟩
    · exact ⟨j, hfront, mid, .inr hnode, hback⟩

/-- The anchor `$` holds at the end alone. -/
theorem holdsAt_textEnd : Look.textEnd.HoldsAt cs i ↔ cs.length ≤ i := by
  rw [Look.HoldsAt, Look.holds, Option.isNone_iff_eq_none, List.getElem?_eq_none_iff]

/-- **Between the anchors a text** matches what is equal to it up to case. -/
theorem spans_closed {text : List Char} :
    (∃ i ≤ cs.length, ∃ j,
      SpansRow cs ((anchored text ++ [Item.ofLook .textEnd]).map Item.node) i j) ↔
      text.map foldCase = cs.map foldCase := by
  constructor
  · rintro ⟨i, hi, j, hrow⟩
    rw [anchored, List.cons_append, List.map_cons, List.map_append] at hrow
    obtain ⟨start, ⟨hstart, rfl⟩, hrow⟩ := hrow
    obtain ⟨stop, htext, _, ⟨hend, -⟩, -⟩ := spansRow_append.mp hrow
    obtain ⟨hstop, hprefix⟩ := spansRow_text.mp htext
    have hzero := eq_zero_of_textStart hi hstart
    rw [hzero, List.drop_zero] at hprefix
    have hlength := holdsAt_textEnd.mp hend
    refine hprefix.eq_of_length_le ?_
    rw [List.length_map, List.length_map]
    omega
  · intro hequal
    have hlength := congrArg List.length hequal
    rw [List.length_map, List.length_map] at hlength
    refine ⟨0, Nat.zero_le _, 0 + text.length, ?_⟩
    rw [anchored, List.cons_append, List.map_cons, List.map_append]
    refine ⟨0, ⟨rfl, rfl⟩, spansRow_append.mpr ⟨0 + text.length, ?_, _, ⟨?_, rfl⟩, rfl⟩⟩
    · exact spansRow_text.mpr ⟨rfl, hequal ▸ List.prefix_refl _⟩
    · exact holdsAt_textEnd.mpr (by omega)

end Spans

/-! ## Patterns -/

/-- The pattern of the items in one row. -/
def wholeItem (items : List Item) : Item :=
  .choice [.row items.length items]

/-- The items of a text between the anchors. -/
def closed (text : List Char) : List Item :=
  anchored text ++ [.ofLook .textEnd]

/-- The items of a text between the anchors with an optional character behind it. -/
def closedOptional (text : List Char) (c : Char) : List Item :=
  anchored text ++
    [(Item.ofSet (patternFlags.closeChar c)).repeated 0 (some 1) true, .ofLook .textEnd]

theorem finish_row (flags : Flags) (items : List Item) :
    Level.finish { flags := flags, row := (items.map some).reverse } = wholeItem items := by
  simp [Level.finish, Level.current, wholeItem]

theorem node_wholeItem (items : List Item) :
    (wholeItem items).node = Node.sequence (items.map Item.node) :=
  rfl

theorem read?_of_readItems {pattern : String} {item : Item}
    (hitems : readItems (pattern.toList.length + 1) { flags := patternFlags }
      { rest := pattern.toList } = some (item, { rest := [] })) : read? pattern = some item := by
  rw [read?, hitems]
  rfl

/-- Reading a text between the anchors. -/
theorem read?_closed {pattern : String} {text : List Char}
    (hpattern : pattern.toList = '^' :: (text ++ ['$'])) (htext : IsPlain text) :
    read? pattern = some (wholeItem (closed text)) := by
  have hrow : some (Item.ofLook .textEnd) :: ((anchored text).map some).reverse =
      ((closed text).map some).reverse := by
    simp [closed]
  apply read?_of_readItems
  rw [readItems_front hpattern htext, List.length_singleton, readItems_dollar rfl rfl,
    readItems_end rfl rfl, Level.push, ← finish_row patternFlags, ← hrow]
  rfl

/-- Reading a text between the anchors with an optional character behind it. -/
theorem read?_optional {pattern : String} {text : List Char} {c : Char}
    (hpattern : pattern.toList = '^' :: (text ++ [c, '?', '$'])) (htext : IsPlain text)
    (hc : isOperator c = false) :
    read? pattern = some (wholeItem (closedOptional text c)) := by
  have hlength : [c, '?', '$'].length + 1 = 4 := rfl
  have hrow : some (Item.ofLook .textEnd) ::
      some ((Item.ofSet (patternFlags.closeChar c)).repeated 0 (some 1) true) ::
        ((anchored text).map some).reverse = ((closedOptional text c).map some).reverse := by
    simp [closedOptional]
  apply read?_of_readItems
  rw [readItems_front hpattern htext, hlength, readItems_char rfl hc rfl,
    readItems_optional rfl rfl rfl (by decide), readItems_dollar rfl rfl, readItems_end rfl rfl,
    Level.push, ← finish_row patternFlags, ← hrow]
  rfl

/-- The expression of a pattern whose item is known. -/
theorem search_of_read? {pattern : String} {item : Item} (hread : read? pattern = some item)
    {expression : Expression} (hcompile : compile? pattern = some expression) {path : String} :
    (expression.program.search path).isSome ↔
      ∃ i ≤ path.toList.length, ∃ j, item.node.Spans path.toList i j := by
  obtain ⟨other, hother, rfl⟩ := item_of_compile? hcompile
  obtain rfl := Option.some.inj (hread.symm.trans hother)
  exact search_isSome_iff

/-- **A text between the anchors** matches what is equal to it up to case. -/
theorem search_closed {pattern : String} {text : List Char}
    (hpattern : pattern.toList = '^' :: (text ++ ['$'])) (htext : IsPlain text)
    {expression : Expression} (hcompile : compile? pattern = some expression) {path : String} :
    (expression.program.search path).isSome ↔ text.map foldCase = path.toList.map foldCase := by
  rw [search_of_read? (read?_closed hpattern htext) hcompile, node_wholeItem]
  simp only [spans_sequence]
  exact spans_closed

/-- **A text between the anchors with an optional character behind it** matches what is equal up to
case to the text with this character or without it. -/
theorem search_optional {pattern : String} {text : List Char} {c : Char}
    (hpattern : pattern.toList = '^' :: (text ++ [c, '?', '$'])) (htext : IsPlain text)
    (hc : isOperator c = false) {expression : Expression}
    (hcompile : compile? pattern = some expression) {path : String} :
    (expression.program.search path).isSome ↔
      text.map foldCase = path.toList.map foldCase ∨
        (text ++ [c]).map foldCase = path.toList.map foldCase := by
  have hrow : (closedOptional text c).map Item.node = (anchored text).map Item.node ++
      .loop 0 (some 1) true (.one (patternFlags.closeChar c)) :: [.look .textEnd] := by
    simp [closedOptional, repeated_optional, Item.ofSet, Item.ofLook]
  have hshorter : (anchored text).map Item.node ++ [.look .textEnd] =
      (anchored text ++ [Item.ofLook .textEnd]).map Item.node := by
    simp [Item.ofLook]
  have hlonger : (anchored text).map Item.node ++
      .one (patternFlags.closeChar c) :: [.look .textEnd] =
      (anchored (text ++ [c]) ++ [Item.ofLook .textEnd]).map Item.node := by
    simp [anchored, textItems, Item.ofSet, Item.ofLook]
  rw [search_of_read? (read?_optional hpattern htext hc) hcompile, node_wholeItem, hrow,
    ← spans_closed, ← spans_closed]
  simp only [spans_sequence, spansRow_optional, hshorter, hlonger]
  constructor
  · rintro ⟨i, hi, j, hspans | hspans⟩
    · exact .inl ⟨i, hi, j, hspans⟩
    · exact .inr ⟨i, hi, j, hspans⟩
  · rintro (⟨i, hi, j, hspans⟩ | ⟨i, hi, j, hspans⟩)
    · exact ⟨i, hi, j, .inl hspans⟩
    · exact ⟨i, hi, j, .inr hspans⟩

end Folio.Pattern
