import Folio.Json.Reader
import Mathlib.Data.String.Basic

/-!
# The members of objects

The members of an object stand in the order of their keys, each key once, however the object came
about: a member that is set finds its place, and the reader sets one member after the other.

* `Ascending`: the order of the members.
* `ascending_insertMember`, `self_mem_insertMember`: a member is set.
* `find?_least`, `find?_of_least`: what a search finds among the members.
* `find?_insertMember`: a search that passes a member over goes on as if it had not been set.
* **`Value.Ordered`**: a value all of whose objects have their members in order.
* `Value.ordered_ofMembers`: what is put together is such a value.
* `ReadsOrdered`, **`Value.ordered_of_parse?`**: what is read is such a value.
-/

namespace Folio.Json

/-- The keys ascend, so that none stands twice. -/
def Ascending (members : List (String × Value)) : Prop :=
  members.Pairwise fun member other => member.1 < other.1

/-! ## Setting a member -/

section Insert

variable {key : String} {value : Value} {members : List (String × Value)}
  {entry : String × Value}

theorem mem_insertMember (h : entry ∈ insertMember key value members) :
    entry = (key, value) ∨ entry ∈ members := by
  fun_induction insertMember key value members with
  | case1 => exact .inl (List.mem_singleton.mp h)
  | case2 => exact (List.mem_cons.mp h).imp_right (List.mem_cons_of_mem _)
  | case3 => exact List.mem_cons.mp h
  | case4 k v rest _ _ ih =>
    rcases List.mem_cons.mp h with rfl | h
    · exact .inr List.mem_cons_self
    · exact (ih h).imp_right (List.mem_cons_of_mem _)

theorem ascending_insertMember (h : Ascending members) (key : String) (value : Value) :
    Ascending (insertMember key value members) := by
  fun_induction insertMember key value members with
  | case1 => exact List.pairwise_singleton _ _
  | case2 => exact List.pairwise_cons.mpr (List.pairwise_cons.mp h)
  | case3 k v rest _ hbefore =>
    refine List.pairwise_cons.mpr ⟨fun other hother => ?_, h⟩
    rcases List.mem_cons.mp hother with rfl | hother
    · exact hbefore
    · exact hbefore.trans ((List.pairwise_cons.mp h).1 other hother)
  | case4 k v rest hsame hbefore ih =>
    obtain ⟨hfirst, hrest⟩ := List.pairwise_cons.mp h
    refine List.pairwise_cons.mpr ⟨fun other hother => ?_, ih hrest⟩
    rcases mem_insertMember hother with rfl | hother
    · exact lt_of_le_of_ne (not_lt.mp hbefore) (Ne.symm hsame)
    · exact hfirst other hother

theorem self_mem_insertMember (key : String) (value : Value) (members : List (String × Value)) :
    (key, value) ∈ insertMember key value members := by
  fun_induction insertMember key value members with
  | case1 | case2 | case3 => exact List.mem_cons_self
  | case4 k v rest _ _ ih => exact List.mem_cons_of_mem _ ih

/-- What a search finds stands before all else that it could have found. -/
theorem find?_least (h : Ascending members) {sought : String × Value → Bool}
    {found other : String × Value} (hfound : members.find? sought = some found)
    (hother : other ∈ members) (hsought : sought other = true) :
    other = found ∨ found.1 < other.1 := by
  obtain ⟨-, before, after, rfl, hbefore⟩ := List.find?_eq_some_iff_append.mp hfound
  rcases List.mem_append.mp hother with hother | hother
  · have hnot := hbefore other hother
    rw [hsought] at hnot
    cases hnot
  · refine (List.mem_cons.mp hother).imp_right fun hother => ?_
    exact (List.pairwise_cons.mp (List.pairwise_append.mp h).2.1).1 other hother

/-- The least of what a search could find is what it finds. -/
theorem find?_of_least (h : Ascending members) {sought : String × Value → Bool}
    {found : String × Value} (hmem : found ∈ members) (hsought : sought found = true)
    (hleast : ∀ other ∈ members, sought other = true → found.1 ≤ other.1) :
    members.find? sought = some found := by
  have hsome : (members.find? sought).isSome = true :=
    List.find?_isSome.mpr ⟨found, hmem, hsought⟩
  obtain ⟨first, hfirst⟩ := Option.isSome_iff_exists.mp hsome
  rcases find?_least h hfirst hmem hsought with rfl | hbefore
  · exact hfirst
  · have hle := hleast first (List.mem_of_find?_eq_some hfirst) (List.find?_some hfirst)
    exact absurd hbefore (not_lt.mpr hle)

/-- A search by key that passes the member over goes on as if it had not been set. -/
theorem find?_insertMember (sought : String → Bool) (value : Value)
    (members : List (String × Value)) (h : sought key = false) :
    (insertMember key value members).find? (fun member => sought member.1) =
      members.find? fun member => sought member.1 := by
  fun_induction insertMember key value members with
  | case1 => simp [h]
  | case2 => simp [h]
  | case3 => simp [h]
  | case4 k v rest _ _ ih => rw [List.find?_cons, List.find?_cons, ih]

end Insert

/-! ## Ordered values -/

/-- **A value all of whose objects have their members in order.** -/
inductive Value.Ordered : Value → Prop
  | null : Ordered .null
  | bool (b : Bool) : Ordered (.bool b)
  | number (n : Number) : Ordered (.number n)
  | string (s : String) : Ordered (.string s)
  | array {items : List Value} (h : ∀ item ∈ items, Ordered item) : Ordered (.array items)
  | object {members : List (String × Value)} (hkeys : Ascending members)
    (h : ∀ member ∈ members, Ordered member.2) : Ordered (.object members)

namespace Value.Ordered

variable {members : List (String × Value)}

theorem ascending (h : (Value.object members).Ordered) : Ascending members := by
  cases h with
  | object hkeys _ => exact hkeys

theorem empty : (Value.object []).Ordered := .object .nil (List.forall_mem_nil _)

theorem insertMember (h : (Value.object members).Ordered) (key : String) {value : Value}
    (hvalue : value.Ordered) : (Value.object (insertMember key value members)).Ordered := by
  cases h with
  | object hkeys hmembers =>
    refine .object (ascending_insertMember hkeys key value) fun member hmember => ?_
    rcases mem_insertMember hmember with rfl | hmember
    · exact hvalue
    · exact hmembers member hmember

theorem cons {item : Value} {items : List Value} (h : (Value.array items).Ordered)
    (hitem : item.Ordered) : (Value.array (item :: items)).Ordered := by
  cases h with
  | array hitems => exact .array (List.forall_mem_cons.mpr ⟨hitem, hitems⟩)

theorem reverse {items : List Value} (h : (Value.array items).Ordered) :
    (Value.array items.reverse).Ordered := by
  cases h with
  | array hitems => exact .array fun item hitem => hitems item (List.mem_reverse.mp hitem)

end Value.Ordered

theorem Value.ordered_ofMembers {members : List (String × Value)}
    (h : ∀ member ∈ members, member.2.Ordered) : (Value.ofMembers members).Ordered := by
  have hfold : ∀ sorted, (Value.object sorted).Ordered → (Value.object (members.foldl
      (fun sorted member => insertMember member.1 member.2 sorted) sorted)).Ordered := by
    induction members with
    | nil => exact fun _ hsorted => hsorted
    | cons member members ih =>
      obtain ⟨hmember, hmembers⟩ := List.forall_mem_cons.mp h
      exact fun sorted hsorted => ih hmembers _ (hsorted.insertMember member.1 hmember)
  exact hfold [] .empty

/-! ## Reading -/

/-- What the reader gives with this fuel is in order, if what was read before it is. -/
structure ReadsOrdered (fuel : Nat) : Prop where
  value : ∀ {depth cs value rest}, readValue depth fuel cs = some (value, rest) → value.Ordered
  items : ∀ {depth cs done items rest}, readItems depth fuel cs done = some (items, rest) →
    (Value.array done).Ordered → (Value.array items).Ordered
  members : ∀ {depth cs done members rest}, readMembers depth fuel cs done = some (members, rest) →
    (Value.object done).Ordered → (Value.object members).Ordered

namespace ReadsOrdered

variable {fuel depth : Nat} {cs rest : List Char}

theorem readValue_succ (h : ReadsOrdered fuel) {value : Value}
    (hread : readValue depth (fuel + 1) cs = some (value, rest)) : value.Ordered := by
  unfold readValue at hread
  split at hread
  · cases hread
    exact .null
  · cases hread
    exact .bool true
  · cases hread
    exact .bool false
  · obtain ⟨_, -, hpair⟩ := Option.map_eq_some_iff.mp hread
    cases hpair
    exact .string _
  · -- an array
    split at hread
    · cases hread
    · split at hread
      · cases hread
        exact .array (List.forall_mem_nil _)
      · obtain ⟨_, hitems, hpair⟩ := Option.map_eq_some_iff.mp hread
        cases hpair
        exact h.items hitems (.array (List.forall_mem_nil _))
  · -- an object
    split at hread
    · cases hread
    · split at hread
      · cases hread
        exact .empty
      · obtain ⟨_, hmembers, hpair⟩ := Option.map_eq_some_iff.mp hread
        cases hpair
        exact h.members hmembers .empty
  · obtain ⟨_, -, hpair⟩ := Option.map_eq_some_iff.mp hread
    cases hpair
    exact .number _

theorem readItems_succ (h : ReadsOrdered fuel) {done items : List Value}
    (hread : readItems depth (fuel + 1) cs done = some (items, rest))
    (hdone : (Value.array done).Ordered) : (Value.array items).Ordered := by
  unfold readItems at hread
  split at hread
  · cases hread
  · next hitem =>
    have hdone := hdone.cons (h.value hitem)
    split at hread
    · exact h.items hread hdone
    · cases hread
      exact hdone.reverse
    · cases hread

theorem readMembers_succ (h : ReadsOrdered fuel) {done members : List (String × Value)}
    (hread : readMembers depth (fuel + 1) cs done = some (members, rest))
    (hdone : (Value.object done).Ordered) : (Value.object members).Ordered := by
  unfold readMembers at hread
  split at hread
  · split at hread
    · cases hread
    · next key _ _ =>
      split at hread
      · split at hread
        · cases hread
        · next hvalue =>
          have hdone := hdone.insertMember key (h.value hvalue)
          split at hread
          · exact h.members hread hdone
          · cases hread
            exact hdone
          · cases hread
      · cases hread
  · cases hread

end ReadsOrdered

theorem readsOrdered (fuel : Nat) : ReadsOrdered fuel := by
  induction fuel with
  | zero =>
    constructor
    · intro depth cs value rest hread
      simp [readValue] at hread
    · intro depth cs done items rest hread
      simp [readItems] at hread
    · intro depth cs done members rest hread
      simp [readMembers] at hread
  | succ fuel ih => exact ⟨ih.readValue_succ, ih.readItems_succ, ih.readMembers_succ⟩

/-- **The value of a text has its members in order**, at any depth. -/
theorem Value.ordered_of_parse? {text : String} {value : Value}
    (h : Value.parse? text = some value) : value.Ordered := by
  unfold Value.parse? at h
  dsimp only at h
  split at h
  · next hread =>
    split at h
    · cases h
      exact (readsOrdered _).value hread
    · cases h
  · cases h

end Folio.Json
