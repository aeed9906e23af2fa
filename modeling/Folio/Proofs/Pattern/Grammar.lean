import Mathlib.Data.List.Pairwise
import Folio.Pattern.Expression

/-!
# What is read as a regular expression

Reading a group only ever adds an item to its row, repeats the last one, changes the modes, or
begins a new row behind a bar. What holds of a pattern is shown along these steps.

* **`Level.Reads`**: the steps by which a group is read; `Level.reads_of_readItems`.
* `Level.groups`: the named groups read so far.
* `Cursor.Covers`: named groups in the order of their numbers, no two of one name.
* **`groups_of_compile?`**: so are the named groups of an expression.
-/

namespace Folio.Pattern

open Unicode (CharSet)

/-! ## Steps -/

/-- Begin a new row behind a bar. -/
def Level.bar (level : Level) : Level :=
  { level with choices := level.current :: level.choices, row := [] }

/-- Change the modes. -/
def Level.change (level : Level) (flags : Flags) : Level :=
  { level with flags := flags, row := none :: level.row }

/-- **How the rest of a group is read**, up to its end. -/
inductive Level.Reads : Level → Cursor → Item → Cursor → Prop
  | finish {level : Level} {cursor : Cursor} (rest : List Char) :
    Reads level cursor level.finish { cursor with rest := rest }
  | bar {level : Level} {cursor last : Cursor} {item : Item} (rest : List Char)
    (next : Reads level.bar { cursor with rest := rest } item last) :
    Reads level cursor item last
  | again {level after : Level} {cursor last : Cursor} {item : Item} {least : Nat}
    {most : Option Nat} {lazy : Bool} (rest : List Char)
    (hrepeat : level.repeatLast least most lazy = some after)
    (next : Reads after { cursor with rest := rest } item last) : Reads level cursor item last
  | modes {level : Level} {cursor last : Cursor} {item : Item} (flags : Flags) (rest : List Char)
    (next : Reads (level.change flags) { cursor with rest := rest } item last) :
    Reads level cursor item last
  | set {level : Level} {cursor last : Cursor} {item : Item} (set : CharSet) (depth : Nat)
    (rest : List Char)
    (next : Reads (level.push (.ofSet set depth)) { cursor with rest := rest } item last) :
    Reads level cursor item last
  | look {level : Level} {cursor last : Cursor} {item : Item} (look : Look) (rest : List Char)
    (next : Reads (level.push (.ofLook look)) { cursor with rest := rest } item last) :
    Reads level cursor item last
  | plain {level : Level} {cursor inner last : Cursor} {body item : Item} (flags : Flags)
    (start rest : List Char)
    (hbody : Reads { flags := flags } { cursor with rest := start } body inner)
    (next : Reads (level.push { body with depth := body.depth + 1 }) { inner with rest := rest }
      item last) : Reads level cursor item last
  | captured {level : Level} {cursor inner last : Cursor} {body item : Item} (name : Option String)
    (start rest : List Char) (hfresh : ∀ text ∈ name, text ∉ cursor.names)
    (hbody : Reads { flags := level.flags }
      ⟨start, cursor.nextGroup + 1, name.toList ++ cursor.names⟩ body inner)
    (next : Reads (level.push (.captured cursor.nextGroup name body)) { inner with rest := rest }
      item last) : Reads level cursor item last

theorem readPrimitive_eq_some {flags : Flags} {cs rest : List Char} {item : Item}
    (h : readPrimitive flags cs = some (item, rest)) :
    (∃ set, item = .ofSet set) ∨ ∃ look, item = .ofLook look := by
  unfold readPrimitive at h
  split at h
  · cases h
  · obtain ⟨⟨primitive, after⟩, -, hitem⟩ := Option.map_eq_some_iff.mp h
    obtain ⟨rfl, -⟩ := Prod.mk.inj hitem
    cases primitive with
    | char c => exact .inl ⟨_, rfl⟩
    | set set => exact .inl ⟨set, rfl⟩
    | look look => exact .inr ⟨look, rfl⟩
  · obtain ⟨set, -, hitem⟩ := Option.map_eq_some_iff.mp h
    obtain ⟨rfl, -⟩ := Prod.mk.inj hitem
    exact .inl ⟨set, rfl⟩
  · obtain ⟨rfl, -⟩ := Prod.mk.inj (Option.some.inj h)
    exact .inr ⟨_, rfl⟩
  · obtain ⟨rfl, -⟩ := Prod.mk.inj (Option.some.inj h)
    exact .inr ⟨_, rfl⟩
  · obtain ⟨rfl, -⟩ := Prod.mk.inj (Option.some.inj h)
    exact .inl ⟨_, rfl⟩

theorem Level.reads_of_readItems {fuel : Nat} {level : Level} {cursor last : Cursor} {item : Item}
    (h : readItems fuel level cursor = some (item, last)) : level.Reads cursor item last := by
  induction fuel generalizing level cursor item last with
  | zero => cases h
  | succ fuel ih =>
    rw [readItems] at h
    dsimp only at h
    split at h
    · obtain ⟨rfl, rfl⟩ := Prod.mk.inj (Option.some.inj h)
      exact .finish []
    · obtain ⟨rfl, rfl⟩ := Prod.mk.inj (Option.some.inj h)
      exact .finish _
    · exact .bar _ (ih h)
    iterate 3
      · split at h
        · cases h
        · next hrepeat => exact .again _ hrepeat (ih h)
    · split at h
      · cases h
      · split at h
        · cases h
        · next hrepeat => exact .again _ hrepeat (ih h)
    · split at h
      · cases h
      · exact .set _ _ _ (ih h)
    · split at h
      · cases h
      · exact .modes _ _ (ih h)
      · split at h
        · next hbody => exact .plain _ _ _ (ih hbody) (ih h)
        · cases h
      · split at h
        · cases h
        · next name rest hgroup hfresh =>
          split at h
          · next hbody =>
            refine .captured name _ _ ?_ (ih hbody) (ih h)
            rintro text rfl hmem
            exact hfresh (List.contains_iff_mem.mpr hmem)
          · cases h
    · split at h
      · cases h
      · next item' rest hread =>
        rcases readPrimitive_eq_some hread with ⟨set, rfl⟩ | ⟨look, rfl⟩
        · exact .set _ _ _ (ih h)
        · exact .look _ _ (ih h)

/-! ## Named groups -/

theorem groupNames_sequence (nodes : List Node) :
    (Node.sequence nodes).groupNames = nodes.flatMap Node.groupNames := by
  have hfold (nodes : List Node) (first : Node) :
      (nodes.foldl Node.cat first).groupNames =
        first.groupNames ++ nodes.flatMap Node.groupNames := by
    induction nodes generalizing first with
    | nil => exact (List.append_nil _).symm
    | cons node nodes ih =>
      rw [List.foldl_cons, ih, Node.groupNames, List.append_assoc, List.flatMap_cons]
  cases nodes with
  | nil => rfl
  | cons node nodes => exact hfold nodes node

theorem groupNames_choice (nodes : List Node) :
    (Node.choice nodes).groupNames = nodes.flatMap Node.groupNames := by
  induction nodes with
  | nil => rfl
  | cons node nodes ih =>
    cases nodes with
    | nil => exact (List.append_nil _).symm
    | cons other nodes =>
      rw [Node.choice, Node.groupNames, ih]
      · rfl
      · exact List.cons_ne_nil _ _

theorem groupNames_row (count : Nat) (items : List Item) :
    (Item.row count items).node.groupNames = items.flatMap fun item => item.node.groupNames := by
  rw [Item.row, groupNames_sequence, List.flatMap_map]

/-- A repeated item has no groups but those of the item. -/
theorem groupNames_repeated (item : Item) (least : Nat) (most : Option Nat) (greedy : Bool) :
    (item.repeated least most greedy).node.groupNames.Sublist item.node.groupNames := by
  unfold Item.repeated
  dsimp only
  split
  · exact List.nil_sublist _
  · split
    · exact .refl _
    · exact .refl _

namespace Level

/-- The named groups that have been read. -/
def groups (level : Level) : List (Nat × String) :=
  level.finish.node.groupNames

/-- The named groups of the row that is being read. -/
def rowGroups (row : List (Option Item)) : List (Nat × String) :=
  (row.reverse.filterMap id).flatMap fun item => item.node.groupNames

theorem groups_eq (level : Level) :
    level.groups =
      (level.choices.reverse.flatMap fun item => item.node.groupNames) ++ rowGroups level.row := by
  rw [groups, finish, Item.choice, groupNames_choice, List.flatMap_map, List.reverse_cons,
    List.flatMap_append, List.flatMap_singleton, current, groupNames_row, rowGroups]

theorem groups_opened (flags : Flags) : Level.groups { flags := flags } = [] := rfl

theorem rowGroups_some (item : Item) (row : List (Option Item)) :
    rowGroups (some item :: row) = rowGroups row ++ item.node.groupNames := by
  simp [rowGroups]

theorem groups_push (level : Level) (item : Item) :
    (level.push item).groups = level.groups ++ item.node.groupNames := by
  rw [groups_eq, groups_eq, push, rowGroups_some, List.append_assoc]

theorem groups_change (level : Level) (flags : Flags) :
    (level.change flags).groups = level.groups := by
  simp [groups_eq, change, rowGroups]

theorem groups_bar (level : Level) : level.bar.groups = level.groups := by
  rw [groups_eq, groups_eq, bar]
  simp [rowGroups, current, groupNames_row]

theorem groups_repeatLast {level after : Level} {least : Nat} {most : Option Nat} {lazy : Bool}
    (h : level.repeatLast least most lazy = some after) : after.groups.Sublist level.groups := by
  unfold repeatLast at h
  split at h
  · next item row hrow =>
    obtain rfl := Option.some.inj h
    rw [groups_eq, groups_eq, hrow, rowGroups_some, rowGroups_some]
    exact ((groupNames_repeated item least most _).append_left _).append_left _
  · cases h

end Level

/-- **Named groups in the order of their numbers**, no two of one name, all known to the cursor. -/
structure Cursor.Covers (cursor : Cursor) (groups : List (Nat × String)) : Prop where
  ordered : (groups.map Prod.fst).Pairwise (· < ·)
  distinct : (groups.map Prod.snd).Nodup
  earlier : ∀ group ∈ groups, group.1 < cursor.nextGroup
  known : ∀ group ∈ groups, group.2 ∈ cursor.names

theorem Cursor.Covers.sublist {cursor : Cursor} {groups others : List (Nat × String)}
    (h : cursor.Covers groups) (hsub : others.Sublist groups) : cursor.Covers others where
  ordered := h.ordered.sublist (hsub.map _)
  distinct := h.distinct.sublist (hsub.map _)
  earlier := fun group hmem => h.earlier group (hsub.subset hmem)
  known := fun group hmem => h.known group (hsub.subset hmem)

theorem Cursor.Covers.moved {cursor : Cursor} {groups : List (Nat × String)}
    (h : cursor.Covers groups) (rest : List Char) : Covers { cursor with rest := rest } groups :=
  ⟨h.ordered, h.distinct, h.earlier, h.known⟩

/-- The next group may be given a name that is not known. -/
theorem Cursor.Covers.group {cursor : Cursor} {groups : List (Nat × String)}
    (h : cursor.Covers groups) {name : Option String} (hfresh : ∀ text ∈ name, text ∉ cursor.names)
    (rest : List Char) :
    Cursor.Covers ⟨rest, cursor.nextGroup + 1, name.toList ++ cursor.names⟩
      (groups ++ name.toList.map fun text => (cursor.nextGroup, text)) := by
  cases name with
  | none =>
    rw [Option.toList_none, List.map_nil, List.append_nil]
    exact ⟨h.ordered, h.distinct, fun group hmem => Nat.lt_succ_of_lt (h.earlier group hmem),
      h.known⟩
  | some text =>
    have hnew : text ∉ groups.map Prod.snd := by
      rintro hmem
      obtain ⟨group, hgroup, rfl⟩ := List.mem_map.mp hmem
      exact hfresh _ rfl (h.known group hgroup)
    constructor
    · simp only [Option.toList_some, List.map_append, List.map_cons, List.map_nil]
      refine List.pairwise_append.mpr ⟨h.ordered, List.pairwise_singleton _ _, ?_⟩
      intro index hindex other hother
      obtain ⟨group, hgroup, rfl⟩ := List.mem_map.mp hindex
      rw [List.mem_singleton.mp hother]
      exact h.earlier group hgroup
    · simp only [Option.toList_some, List.map_append, List.map_cons, List.map_nil]
      exact List.nodup_append.mpr ⟨h.distinct, List.pairwise_singleton _ _, fun a ha b hb hab =>
        hnew ((List.mem_singleton.mp hb ▸ hab) ▸ ha)⟩
    · intro group hmem
      rcases List.mem_append.mp hmem with hmem | hmem
      · exact Nat.lt_succ_of_lt (h.earlier group hmem)
      · rw [List.mem_singleton.mp hmem]
        exact Nat.lt_succ_self _
    · intro group hmem
      rcases List.mem_append.mp hmem with hmem | hmem
      · exact List.mem_cons_of_mem _ (h.known group hmem)
      · rw [List.mem_singleton.mp hmem]
        exact List.mem_cons_self

/-- Reading keeps the groups in order, after those that were read earlier. -/
theorem Level.Reads.covers {level : Level} {cursor last : Cursor} {item : Item}
    (h : level.Reads cursor item last) (earlier : List (Nat × String))
    (hcovers : cursor.Covers (earlier ++ level.groups)) :
    last.Covers (earlier ++ item.node.groupNames) := by
  induction h generalizing earlier with
  | finish rest => exact hcovers.moved rest
  | bar rest next ih =>
    refine ih earlier ?_
    rw [groups_bar]
    exact hcovers.moved rest
  | again rest hrepeat next ih =>
    have hsub := (groups_repeatLast hrepeat).append_left earlier
    exact ih earlier ((hcovers.sublist hsub).moved rest)
  | modes flags rest next ih =>
    refine ih earlier ?_
    rw [groups_change]
    exact hcovers.moved rest
  | set set depth rest next ih =>
    refine ih earlier ?_
    rw [groups_push, Item.ofSet, Node.groupNames, List.append_nil]
    exact hcovers.moved rest
  | look look rest next ih =>
    refine ih earlier ?_
    rw [groups_push, Item.ofLook, Node.groupNames, List.append_nil]
    exact hcovers.moved rest
  | @plain level cursor inner last body item flags start rest hbody next ihbody ih =>
    -- The groups of the body come after those of the level it stands in.
    have hinner : inner.Covers (earlier ++ level.groups ++ body.node.groupNames) := by
      refine ihbody _ ?_
      rw [groups_opened, List.append_nil]
      exact hcovers.moved start
    refine ih earlier ?_
    rw [groups_push, ← List.append_assoc]
    exact hinner.moved rest
  | @captured level cursor inner last body item name start rest hfresh hbody next ihbody ih =>
    have hstart := hcovers.group hfresh start
    rw [← List.append_nil (_ ++ List.map _ _), ← groups_opened level.flags] at hstart
    have hinner := ihbody _ hstart
    refine ih earlier ?_
    rw [groups_push, Item.captured, Node.groupNames, ← List.append_assoc, ← List.append_assoc]
    exact hinner.moved rest

/-! ## Expressions -/

theorem item_of_compile? {pattern : String} {expression : Expression}
    (h : compile? pattern = some expression) :
    ∃ item, read? pattern = some item ∧
      expression = ⟨item.node.groupNames, item.node.program⟩ := by
  unfold compile? at h
  split at h
  · next item hread =>
    split at h
    · exact ⟨item, hread, (Option.some.inj h).symm⟩
    · cases h
  · cases h

theorem readItems_of_read? {pattern : String} {item : Item} (h : read? pattern = some item) :
    ∃ last, readItems (pattern.toList.length + 1) { flags := patternFlags }
      { rest := pattern.toList } = some (item, last) := by
  unfold read? at h
  dsimp only at h
  split at h
  · next item' last hitems =>
    split at h
    · obtain rfl := Option.some.inj h
      exact ⟨last, hitems⟩
    · cases h
  · cases h

/-- **The named groups of an expression** come in the order of their numbers, and no two have one
name. -/
theorem groups_of_compile? {pattern : String} {expression : Expression}
    (h : compile? pattern = some expression) :
    (expression.groups.map Prod.fst).Pairwise (· < ·) ∧ (expression.groups.map Prod.snd).Nodup := by
  obtain ⟨item, hread, rfl⟩ := item_of_compile? h
  obtain ⟨last, hitems⟩ := readItems_of_read? hread
  have hstart : Cursor.Covers { rest := pattern.toList } [] := ⟨.nil, .nil, by simp, by simp⟩
  have hcovers := (Level.reads_of_readItems hitems).covers [] hstart
  exact ⟨hcovers.ordered, hcovers.distinct⟩

end Folio.Pattern
