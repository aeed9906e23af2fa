import Folio.Proofs.Pattern.Grammar
import Folio.Proofs.Pattern.Searching
import Folio.Proofs.Unicode.Folding

/-!
# Patterns that begin with a text

A pattern that begins with the anchor `^` and a text is read as a row that begins so. What follows
may repeat the item behind the text, but nothing that comes before it. A bar ends the row: what
stands behind it begins anew, without the anchor.

* `isOperator`, `IsPlain`: the characters that do not stand for themselves, and texts without them.
* `Level.Opens`: the first alternative of a group begins with given items and one more.
* **`Level.Reads.opens`**: it does so still when the group ends.
* `Barred`: patterns with a bar outside of groups.
* **`begins_of_search`**: what is matched without such a bar begins with the text.
* **`search_barred`**: what two texts with a bar between them match.
-/

namespace Folio.Pattern

open Unicode (CharSet foldCase)

/-! ## Reading a text -/

/-- Does the character not stand for itself, outside brackets? -/
def isOperator (c : Char) : Bool :=
  ['\\', '.', '+', '*', '?', '(', ')', '|', '[', '{', '^', '$'].contains c

/-- **A text that stands for itself** as a pattern. -/
def IsPlain (text : List Char) : Prop :=
  ∀ c ∈ text, isOperator c = false

instance (text : List Char) : Decidable (IsPlain text) :=
  List.decidableBAll (fun c => isOperator c = false) text

/-- The items of a text. -/
def textItems (flags : Flags) (text : List Char) : List Item :=
  text.map fun c => .ofSet (flags.closeChar c)

/-- The items of the anchor and a text. -/
def anchored (text : List Char) : List Item :=
  .ofLook .textStart :: textItems patternFlags text

theorem skipSpace_of_plain {flags : Flags} (hverbose : flags.verbose = false) (cs : List Char) :
    skipSpace flags cs = cs := by
  rw [skipSpace, hverbose]
  rfl

theorem readItems_char {level : Level} {cursor : Cursor} {c : Char} {rest : List Char} {fuel : Nat}
    (hverbose : level.flags.verbose = false) (hplain : isOperator c = false)
    (hrest : cursor.rest = c :: rest) :
    readItems (fuel + 1) level cursor =
      readItems fuel (level.push (.ofSet (level.flags.closeChar c)))
        { cursor with rest := rest } := by
  have hread : readPrimitive level.flags (c :: rest) =
      some (.ofSet (level.flags.closeChar c), rest) := by
    unfold readPrimitive
    split
    all_goals simp_all [isOperator, primitiveItem]
  rw [readItems, skipSpace_of_plain hverbose, hrest]
  dsimp only
  split
  all_goals simp_all [isOperator]

theorem readItems_text {level : Level} {cursor : Cursor} {text rest : List Char} {fuel : Nat}
    (hverbose : level.flags.verbose = false) (hplain : IsPlain text)
    (hrest : cursor.rest = text ++ rest) :
    readItems (fuel + text.length) level cursor =
      readItems fuel
        { level with row := ((textItems level.flags text).map some).reverse ++ level.row }
        { cursor with rest := rest } := by
  induction text generalizing level cursor with
  | nil =>
    rw [List.nil_append] at hrest
    subst hrest
    rfl
  | cons c text ih =>
    have hc : isOperator c = false := hplain c List.mem_cons_self
    have htext : IsPlain text := fun d hmem => hplain d (List.mem_cons_of_mem _ hmem)
    have hpushed : (level.push (.ofSet (level.flags.closeChar c))).flags.verbose = false := hverbose
    rw [List.cons_append] at hrest
    rw [List.length_cons, ← Nat.add_assoc, readItems_char hverbose hc hrest, ih hpushed htext rfl]
    simp [textItems, Level.push]

theorem readItems_anchor {level : Level} {cursor : Cursor} {rest : List Char} {fuel : Nat}
    (hverbose : level.flags.verbose = false) (hrest : cursor.rest = '^' :: rest) :
    readItems (fuel + 1) level cursor =
      readItems fuel (level.push (.ofLook (startLook level.flags)))
        { cursor with rest := rest } := by
  rw [readItems, skipSpace_of_plain hverbose, hrest]
  rfl

theorem readItems_bar {level : Level} {cursor : Cursor} {rest : List Char} {fuel : Nat}
    (hverbose : level.flags.verbose = false) (hrest : cursor.rest = '|' :: rest) :
    readItems (fuel + 1) level cursor = readItems fuel level.bar { cursor with rest := rest } := by
  rw [readItems, skipSpace_of_plain hverbose, hrest]
  rfl

theorem readItems_end {level : Level} {cursor : Cursor} {fuel : Nat}
    (hverbose : level.flags.verbose = false) (hrest : cursor.rest = []) :
    readItems (fuel + 1) level cursor = some (level.finish, { cursor with rest := [] }) := by
  rw [readItems, skipSpace_of_plain hverbose, hrest]

/-- Reading a pattern that begins with the anchor and a text, after both. -/
theorem readItems_front {cs text rest : List Char} (hcs : cs = '^' :: (text ++ rest))
    (htext : IsPlain text) :
    readItems (cs.length + 1) { flags := patternFlags } { rest := cs } =
      readItems (rest.length + 1)
        { flags := patternFlags, row := ((anchored text).map some).reverse } { rest := rest } := by
  have hlength : cs.length + 1 = rest.length + 1 + text.length + 1 := by
    rw [hcs, List.length_cons, List.length_append]
    omega
  rw [hlength, readItems_anchor rfl hcs, readItems_text rfl htext rfl, anchored, List.map_cons,
    List.reverse_cons]
  rfl

theorem readItems_anchored {pattern : String} {text rest : List Char}
    (hpattern : pattern.toList = '^' :: (text ++ rest)) (htext : IsPlain text) {item : Item}
    (hread : read? pattern = some item) :
    ∃ last, readItems (rest.length + 1)
      { flags := patternFlags, row := ((anchored text).map some).reverse } { rest := rest } =
        some (item, last) := by
  obtain ⟨last, hitems⟩ := readItems_of_read? hread
  rw [readItems_front hpattern htext] at hitems
  exact ⟨last, hitems⟩

/-! ## The first alternative -/

/-- **The first alternative begins with given items and at least one more.** -/
inductive Level.Opens (front : List Item) (level : Level) : Prop
  | first (more : List (Option Item)) (hmore : more ≠ []) (hchoices : level.choices = [])
    (hrow : level.row = more ++ (front.map some).reverse)
  | earlier (before : List Item) (first : Item) (tail : List Item)
    (hchoices : level.choices = before ++ [first])
    (hfirst : first.node = Node.sequence ((front ++ tail).map Item.node))

namespace Level.Opens

variable {front : List Item} {level : Level}

theorem push (h : level.Opens front) (item : Item) : (level.push item).Opens front := by
  cases h with
  | first more hmore hchoices hrow =>
    refine .first (some item :: more) (List.cons_ne_nil _ _) hchoices ?_
    rw [Level.push, hrow, List.cons_append]
  | earlier before first tail hchoices hfirst => exact .earlier before first tail hchoices hfirst

theorem change (h : level.Opens front) (flags : Flags) : (level.change flags).Opens front := by
  cases h with
  | first more hmore hchoices hrow =>
    refine .first (none :: more) (List.cons_ne_nil _ _) hchoices ?_
    rw [Level.change, hrow, List.cons_append]
  | earlier before first tail hchoices hfirst => exact .earlier before first tail hchoices hfirst

/-- The row of the first alternative, when it ends. -/
theorem current_node {more : List (Option Item)}
    (hrow : level.row = more ++ (front.map some).reverse) :
    level.current.node = Node.sequence ((front ++ more.reverse.filterMap id).map Item.node) := by
  rw [Level.current, Item.row, hrow, List.reverse_append, List.reverse_reverse,
    List.filterMap_append, List.filterMap_map, Function.id_comp, List.filterMap_some]

theorem bar (h : level.Opens front) : level.bar.Opens front := by
  cases h with
  | first more hmore hchoices hrow =>
    refine .earlier [] level.current _ ?_ (current_node hrow)
    rw [Level.bar, hchoices, List.nil_append]
  | earlier before first tail hchoices hfirst =>
    refine .earlier (level.current :: before) first tail ?_ hfirst
    rw [Level.bar, hchoices, List.cons_append]

/-- What is repeated stands behind the given items. -/
theorem repeatLast (h : level.Opens front) {after : Level} {least : Nat} {most : Option Nat}
    {lazy : Bool} (hrepeat : level.repeatLast least most lazy = some after) :
    after.Opens front := by
  unfold Level.repeatLast at hrepeat
  split at hrepeat
  · next item row hitem =>
    obtain rfl := Option.some.inj hrepeat
    cases h with
    | first more hmore hchoices hrow =>
      cases more with
      | nil => exact absurd rfl hmore
      | cons last more =>
        rw [hitem, List.cons_append] at hrow
        obtain ⟨-, rfl⟩ := List.cons.inj hrow
        exact .first (_ :: more) (List.cons_ne_nil _ _) hchoices rfl
    | earlier before first tail hchoices hfirst => exact .earlier before first tail hchoices hfirst
  · cases hrepeat

/-- The group as a whole begins so. -/
theorem finish_node (h : level.Opens front) :
    ∃ tail others, level.finish.node =
      Node.choice (Node.sequence ((front ++ tail).map Item.node) :: others) := by
  cases h with
  | first more hmore hchoices hrow =>
    refine ⟨more.reverse.filterMap id, [], ?_⟩
    rw [Level.finish, hchoices, Item.choice, ← current_node hrow]
    rfl
  | earlier before first tail hchoices hfirst =>
    refine ⟨tail, (level.current :: before).reverse.map Item.node, ?_⟩
    rw [Level.finish, hchoices, ← List.cons_append, List.reverse_append, List.reverse_singleton,
      Item.choice, ← hfirst]
    rfl

end Level.Opens

/-- **What is read begins with the given items**, whatever follows them. -/
theorem Level.Reads.opens {level : Level} {cursor last : Cursor} {item : Item}
    (h : level.Reads cursor item last) {front : List Item} (hopens : level.Opens front) :
    ∃ tail others, item.node =
      Node.choice (Node.sequence ((front ++ tail).map Item.node) :: others) := by
  induction h with
  | finish rest => exact hopens.finish_node
  | bar rest next ih => exact ih hopens.bar
  | again rest hrepeat next ih => exact ih (hopens.repeatLast hrepeat)
  | modes flags rest next ih => exact ih (hopens.change flags)
  | set set depth rest next ih => exact ih (hopens.push _)
  | look look rest next ih => exact ih (hopens.push _)
  | plain flags start rest hbody next ihbody ih => exact ih (hopens.push _)
  | captured name start rest hfresh hbody next ihbody ih => exact ih (hopens.push _)

/-! ## Matching -/

theorem has_closeChar {c d : Char} :
    (patternFlags.closeChar c).has d ↔ foldCase d = foldCase c := by
  have hclose : patternFlags.closeChar c = CharSet.ofChars (Unicode.caseVariants c) := rfl
  rw [hclose, CharSet.has_ofChars, Unicode.mem_caseVariants_iff]

/-- The items of a text match what is equal to it up to case. -/
theorem spansRow_text {cs text : List Char} {i j : Nat} :
    SpansRow cs ((textItems patternFlags text).map Item.node) i j ↔
      j = i + text.length ∧ text.map foldCase <+: (cs.drop i).map foldCase := by
  induction text generalizing i with
  | nil => exact ⟨fun h => ⟨Eq.symm h, List.nil_prefix⟩, fun h => h.1.symm⟩
  | cons c text ih =>
    constructor
    · rintro ⟨mid, ⟨⟨d, hd, hhas⟩, rfl⟩, hrest⟩
      obtain ⟨hj, hprefix⟩ := ih.mp hrest
      obtain ⟨hlt, rfl⟩ := List.getElem?_eq_some_iff.mp hd
      rw [List.drop_eq_getElem_cons hlt, List.map_cons, List.map_cons, has_closeChar.mp hhas]
      exact ⟨by rw [hj, List.length_cons]; omega, (List.prefix_cons_inj _).mpr hprefix⟩
    · rintro ⟨hj, hprefix⟩
      have hlt : i < cs.length := by
        have hlength := hprefix.length_le
        simp only [List.map_cons, List.length_cons, List.length_map, List.length_drop] at hlength
        omega
      rw [List.drop_eq_getElem_cons hlt, List.map_cons, List.map_cons, List.cons_prefix_cons]
        at hprefix
      have hchar : (patternFlags.closeChar c).has cs[i] := has_closeChar.mpr hprefix.1.symm
      refine ⟨i + 1, ⟨⟨cs[i], List.getElem?_eq_getElem hlt, hchar⟩, rfl⟩, ih.mpr ⟨?_, hprefix.2⟩⟩
      rw [hj, List.length_cons]
      omega

/-- The anchor holds at the beginning alone. -/
theorem eq_zero_of_textStart {cs : List Char} {i : Nat} (hi : i ≤ cs.length)
    (h : Look.textStart.HoldsAt cs i) : i = 0 := by
  have hnone : charBefore cs i = none := Option.isNone_iff_eq_none.mp h
  have hempty : cs.take i = [] := List.getLast?_eq_none_iff.mp hnone
  rcases List.take_eq_nil_iff.mp hempty with hi' | rfl
  · exact hi'
  · exact Nat.le_zero.mp hi

/-- What begins with the anchor and a text matches what begins with that text. -/
theorem prefix_of_anchored {cs text : List Char} {tail : List Item} {i j : Nat}
    (hi : i ≤ cs.length)
    (h : (Node.sequence ((anchored text ++ tail).map Item.node)).Spans cs i j) :
    text.map foldCase <+: cs.map foldCase := by
  rw [spans_sequence, anchored, List.cons_append, List.map_cons, List.map_append] at h
  obtain ⟨mid, ⟨hstart, rfl⟩, hrow⟩ := h
  obtain ⟨stop, htextRow, -⟩ := spansRow_append.mp hrow
  have hprefix := (spansRow_text.mp htextRow).2
  rwa [eq_zero_of_textStart hi hstart, List.drop_zero] at hprefix

/-! ## Patterns -/

/-- Are there alternatives? -/
def Node.isChoice : Node → Bool
  | .alt _ _ => true
  | _ => false

/-- **The pattern as a whole is a choice**: a bar stands outside of its groups. -/
def Barred (pattern : String) : Prop :=
  ∃ item ∈ read? pattern, item.node.isChoice

instance (pattern : String) : Decidable (Barred pattern) :=
  inferInstanceAs (Decidable (∃ item ∈ read? pattern, item.node.isChoice))

example : Barred "^~/guide|/about" ∧ ¬ Barred "^~/(guide|about)" := by decide +kernel

/-- The item of a pattern that begins with `^` and a text. -/
theorem opens_of_read? {pattern : String} {text more : List Char} {next : Char}
    (hpattern : pattern.toList = '^' :: (text ++ next :: more))
    (htext : IsPlain text) (hnext : isOperator next = false) {item : Item}
    (hread : read? pattern = some item) :
    ∃ tail others, item.node =
      Node.choice (Node.sequence ((anchored text ++ tail).map Item.node) :: others) := by
  obtain ⟨last, hitems⟩ := readItems_anchored hpattern htext hread
  rw [List.length_cons, readItems_char rfl hnext rfl] at hitems
  -- The item behind the text is the one that may be repeated.
  exact (Level.reads_of_readItems hitems).opens
    (.first [some (.ofSet (patternFlags.closeChar next))] (List.cons_ne_nil _ _) rfl rfl)

/-- **A pattern that begins with `^` and a text** only matches what begins so up to case, unless it
has a bar outside of groups. The text ends before a character that stands for itself, which may be
repeated. -/
theorem begins_of_search {pattern : String} {text more : List Char} {next : Char}
    (hpattern : pattern.toList = '^' :: (text ++ next :: more))
    (htext : IsPlain text) (hnext : isOperator next = false)
    (hbarred : ¬ Barred pattern) {expression : Expression}
    (hcompile : compile? pattern = some expression) {path : String}
    (hsearch : (expression.program.search path).isSome) :
    text.map foldCase <+: path.toList.map foldCase := by
  obtain ⟨item, hread, rfl⟩ := item_of_compile? hcompile
  obtain ⟨tail, others, hnode⟩ := opens_of_read? hpattern htext hnext hread
  -- Without a bar there are no other alternatives.
  have hothers : others = [] := by
    cases others with
    | nil => rfl
    | cons other others => exact absurd ⟨item, hread, hnode ▸ rfl⟩ hbarred
  rw [hothers] at hnode
  obtain ⟨i, hi, j, hspans⟩ := search_isSome_iff.mp hsearch
  rw [hnode] at hspans
  exact prefix_of_anchored hi hspans

/-- Behind the anchor a text stands at the beginning. -/
theorem spans_anchored {cs text : List Char} :
    (∃ i ≤ cs.length, ∃ j, (Node.sequence ((anchored text).map Item.node)).Spans cs i j) ↔
      text.map foldCase <+: cs.map foldCase := by
  constructor
  · rintro ⟨i, hi, j, hspans⟩
    exact prefix_of_anchored hi (List.append_nil (anchored text) ▸ hspans)
  · intro hprefix
    refine ⟨0, Nat.zero_le _, 0 + text.length, spans_sequence.mpr ⟨0, ⟨rfl, rfl⟩, ?_⟩⟩
    exact spansRow_text.mpr ⟨rfl, hprefix⟩

/-- A text without the anchor may stand anywhere. -/
theorem spans_unanchored {cs text : List Char} :
    (∃ i ≤ cs.length, ∃ j,
      (Node.sequence ((textItems patternFlags text).map Item.node)).Spans cs i j) ↔
      text.map foldCase <:+: cs.map foldCase := by
  simp only [spans_sequence, spansRow_text, List.infix_iff_prefix_suffix]
  constructor
  · rintro ⟨i, -, j, -, hprefix⟩
    exact ⟨_, hprefix, (List.drop_suffix i cs).map foldCase⟩
  · rintro ⟨back, hprefix, hsuffix⟩
    obtain ⟨back, hback, rfl⟩ := List.suffix_map_iff.mp hsuffix
    have hdrop := List.suffix_iff_eq_drop.mp hback
    rw [hdrop] at hprefix
    exact ⟨_, Nat.sub_le _ _, _, rfl, hprefix⟩

/-- The anchor and a text. -/
theorem search_anchored {pattern : String} {text : List Char}
    (hpattern : pattern.toList = '^' :: text) (htext : IsPlain text) {expression : Expression}
    (hcompile : compile? pattern = some expression) {path : String} :
    (expression.program.search path).isSome ↔
      text.map foldCase <+: path.toList.map foldCase := by
  obtain ⟨item, hread, rfl⟩ := item_of_compile? hcompile
  rw [← List.append_nil text] at hpattern
  obtain ⟨last, hitems⟩ := readItems_anchored hpattern htext hread
  rw [readItems_end rfl rfl] at hitems
  obtain ⟨hitem, -⟩ := Prod.mk.inj (Option.some.inj hitems)
  have hnode : item.node = Node.sequence ((anchored text).map Item.node) := by
    rw [← hitem]
    simp [Level.finish, Level.current, Item.choice, Item.row, Node.choice]
  rw [search_isSome_iff, hnode, spans_anchored]

/-- **A text behind a bar is not anchored**: a pattern of two texts between which a bar stands
matches what begins with the first, and what holds the second anywhere. -/
theorem search_barred {pattern : String} {text other : List Char}
    (hpattern : pattern.toList = '^' :: (text ++ '|' :: other))
    (htext : IsPlain text) (hother : IsPlain other)
    {expression : Expression} (hcompile : compile? pattern = some expression) {path : String} :
    (expression.program.search path).isSome ↔
      text.map foldCase <+: path.toList.map foldCase ∨
        other.map foldCase <:+: path.toList.map foldCase := by
  obtain ⟨item, hread, rfl⟩ := item_of_compile? hcompile
  obtain ⟨last, hitems⟩ := readItems_anchored hpattern htext hread
  have hlength : ('|' :: other).length + 1 = 1 + other.length + 1 := by
    rw [List.length_cons, Nat.add_comm 1]
  rw [hlength, readItems_bar rfl rfl, readItems_text rfl hother (List.append_nil _).symm,
    readItems_end rfl rfl] at hitems
  obtain ⟨hitem, -⟩ := Prod.mk.inj (Option.some.inj hitems)
  have hnode : item.node = .alt (Node.sequence ((anchored text).map Item.node))
      (Node.sequence ((textItems patternFlags other).map Item.node)) := by
    rw [← hitem]
    simp [Level.finish, Level.current, Level.bar, Item.choice, Item.row, Node.choice]
  rw [search_isSome_iff, hnode, ← spans_anchored, ← spans_unanchored]
  simp only [Node.Spans]
  constructor
  · rintro ⟨i, hi, j, hfirst | hsecond⟩
    · exact .inl ⟨i, hi, j, hfirst⟩
    · exact .inr ⟨i, hi, j, hsecond⟩
  · rintro (⟨i, hi, j, hfirst⟩ | ⟨i, hi, j, hsecond⟩)
    · exact ⟨i, hi, j, .inl hfirst⟩
    · exact ⟨i, hi, j, .inr hsecond⟩

end Folio.Pattern
