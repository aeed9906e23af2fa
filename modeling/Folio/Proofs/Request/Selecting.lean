import Folio.Proofs.Json.Members
import Folio.Proofs.Text.Casing
import Folio.Proofs.Text.Utf8
import Folio.Request.Model
import Mathlib

/-!
# The property that a name selects

A name selects the member of exactly that key. Where there is none, it selects the first of those
whose keys differ from it in the case of the letters A to Z alone, in the order of their bytes. A
member that is null is selected like any other, and has nothing to print.

* `Model.Selects`: the member that a name selects; `Model.Prints`: what a value is printed as.
* `Model.select_eq_some_iff`, **`Model.property_eq_some_iff`**: looking a property up.
* `Model.Apart`: no two keys differ in case alone; `Model.select_caseless`: then the case of a name
  does not matter.
* `Model.select_insertMember`: a member of another name changes nothing.
* **`Model.property_selected`**: all of this together.
-/

namespace Folio.Model

open Json

/-! ## The member that a name selects -/

/-- **The member that a name selects**, by its key and its value. -/
inductive Selects (members : List (String × Value)) (name : String) : String → Value → Prop
  /-- A key that is the name itself comes before all others. -/
  | exact {value : Value} (hmem : (name, value) ∈ members) : Selects members name name value
  /-- Else the least of the keys that are the name but for the case of A to Z. -/
  | least {key : String} {value : Value} (hmem : (key, value) ∈ members)
    (hnone : ∀ member ∈ members, member.1 ≠ name) (hcase : asciiEqual key name = true)
    (hleast : ∀ member ∈ members, asciiEqual member.1 name = true →
      Utf8.encode key ≤ Utf8.encode member.1) : Selects members name key value

/-- **What a value is printed as.** Null is not printed. -/
inductive Prints : Value → String → Prop
  | string (text : String) : Prints (.string text) text
  | json {value : Value} (hnull : value ≠ .null) (hstring : ∀ text, value ≠ .string text) :
    Prints value value.text

section Select

variable {members : List (String × Value)} {name other : String} {value : Value} {text : String}

theorem printed_eq_some_iff : printed value = some text ↔ Prints value text := by
  constructor
  · intro h
    cases value with
    | null => cases h
    | string s =>
      obtain rfl := Option.some.inj h
      exact .string s
    | bool | number | array | object =>
      obtain rfl := Option.some.inj h
      exact .json nofun nofun
  · intro h
    cases h with
    | string => rfl
    | json hnull hstring =>
      cases value with
      | null => exact absurd rfl hnull
      | string s => exact absurd rfl (hstring s)
      | bool | number | array | object => rfl

/-- All but null is printed. -/
theorem exists_prints_iff : (∃ text, Prints value text) ↔ value ≠ .null := by
  simp only [← printed_eq_some_iff]
  cases value <;> simp [printed]

theorem select_of_exact {member : String × Value}
    (h : (members.find? fun member => member.1 = name) = some member) :
    select members name = some member.2 := by
  rw [select, h]

theorem select_of_none (h : ∀ member ∈ members, member.1 ≠ name) :
    select members name =
      (members.find? fun member => asciiEqual member.1 name).map Prod.snd := by
  have hnone : (members.find? fun member => member.1 = name) = none :=
    List.find?_eq_none.mpr fun member hmember => by simpa using h member hmember
  rw [select, hnone]

/-- A name that selects a member finds it. -/
theorem Selects.select_eq (hkeys : Ascending members) {key : String}
    (h : Selects members name key value) : select members name = some value := by
  cases h with
  | exact hmem =>
    refine select_of_exact (find?_of_least hkeys hmem (decide_eq_true rfl) fun other _ hsame => ?_)
    exact (of_decide_eq_true hsame).ge
  | least hmem hnone hcase hleast =>
    rw [select_of_none hnone, find?_of_least hkeys hmem hcase fun other hother hsame =>
      Utf8.encode_le_iff.mp (hleast other hother hsame)]
    rfl

/-- **What is found is what the name selects.** -/
theorem select_eq_some_iff (hkeys : Ascending members) :
    select members name = some value ↔ ∃ key, Selects members name key value := by
  refine ⟨fun h => ?_, fun ⟨key, h⟩ => h.select_eq hkeys⟩
  cases hexact : members.find? fun member => member.1 = name with
  | some member =>
    rw [select_of_exact hexact] at h
    obtain rfl := Option.some.inj h
    obtain rfl : member.1 = name := by simpa using List.find?_some hexact
    exact ⟨_, .exact (List.mem_of_find?_eq_some hexact)⟩
  | none =>
    have hnone : ∀ member ∈ members, member.1 ≠ name := by
      simpa using List.find?_eq_none.mp hexact
    rw [select_of_none hnone] at h
    obtain ⟨found, hfound, rfl⟩ := Option.map_eq_some_iff.mp h
    have hcase : asciiEqual found.1 name = true := by simpa using List.find?_some hfound
    refine ⟨found.1, .least (List.mem_of_find?_eq_some hfound) hnone hcase ?_⟩
    intro member hmember hcase
    rw [Utf8.encode_le_iff]
    rcases find?_least hkeys hfound hmember hcase with rfl | hbefore
    · exact le_rfl
    · exact hbefore.le

theorem property_object (members : List (String × Value)) (name : String) :
    (Model.mk (.object members)).property name = (select members name).bind printed := rfl

/-- **Looking a property up.** -/
theorem property_eq_some_iff {model : Model} (h : model.value.Ordered) :
    model.property name = some text ↔
      ∃ members key selected, model.value = .object members ∧
        Selects members name key selected ∧ Prints selected text := by
  obtain ⟨value⟩ := model
  cases value with
  | object members =>
    simp only [property_object, Option.bind_eq_some_iff, select_eq_some_iff h.ascending,
      printed_eq_some_iff]
    constructor
    · rintro ⟨selected, ⟨key, hselects⟩, hprints⟩
      exact ⟨members, key, selected, rfl, hselects, hprints⟩
    · rintro ⟨_, key, selected, ⟨⟩, hselects, hprints⟩
      exact ⟨selected, ⟨key, hselects⟩, hprints⟩
  | null | bool | number | string | array => simp [property]

/-- A property has nothing to print where nothing is selected, or null. -/
theorem property_eq_none_iff {model : Model} (h : model.value.Ordered) :
    model.property name = none ↔ ∀ members key selected, model.value = .object members →
      Selects members name key selected → selected = .null := by
  rw [Option.eq_none_iff_forall_ne_some]
  constructor
  · intro hnone members key selected hvalue hselects
    by_contra hnull
    obtain ⟨text, hprints⟩ := exists_prints_iff.mpr hnull
    exact hnone text ((property_eq_some_iff h).mpr ⟨_, _, _, hvalue, hselects, hprints⟩)
  · intro hnull text hsome
    obtain ⟨members, key, selected, hvalue, hselects, hprints⟩ := (property_eq_some_iff h).mp hsome
    exact exists_prints_iff.mp ⟨text, hprints⟩ (hnull members key selected hvalue hselects)

/-! ## The case of a name -/

/-- No two keys are equal up to the case of A to Z. -/
def Apart (members : List (String × Value)) : Prop :=
  members.Pairwise fun member other => asciiEqual member.1 other.1 = false

theorem Apart.eq (h : Apart members) {member found : String × Value} (hmember : member ∈ members)
    (hfound : found ∈ members) (hcase : asciiEqual member.1 found.1 = true) : member = found := by
  have hsymm : Std.Symm fun member other : String × Value =>
      asciiEqual member.1 other.1 = false := by
    refine ⟨fun member other hfalse => ?_⟩
    rw [← hfalse, asciiEqual, asciiEqual, BEq.comm]
  by_contra hne
  rw [h.forall hmember hfound hne] at hcase
  cases hcase

/-- Where keys are apart, a name selects what is equal to it up to case. -/
theorem Apart.selects_iff (h : Apart members) :
    (∃ key, Selects members name key value) ↔
      ∃ key, (key, value) ∈ members ∧ asciiEqual key name = true := by
  constructor
  · rintro ⟨key, hselects⟩
    cases hselects with
    | exact hmem => exact ⟨_, hmem, asciiEqual_self name⟩
    | least hmem _ hcase _ => exact ⟨key, hmem, hcase⟩
  · rintro ⟨key, hmem, hcase⟩
    by_cases hname : key = name
    · exact ⟨key, hname ▸ .exact hmem⟩
    · have heq {member : String × Value} (hmember : member ∈ members)
          (hother : asciiEqual member.1 name = true) : member = (key, value) :=
        h.eq hmember hmem (asciiEqual_trans hother (asciiEqual_symm hcase))
      refine ⟨key, .least hmem (fun member hmember hsame => hname ?_) hcase ?_⟩
      · rw [← hsame, heq hmember (hsame ▸ asciiEqual_self member.1)]
      · intro member hmember hother
        rw [heq hmember hother]
        exact List.le_refl _

/-- **Where keys are apart, the case of a name does not matter.** -/
theorem select_caseless (hkeys : Ascending members) (h : Apart members)
    (hcase : asciiEqual name other = true) : select members name = select members other := by
  ext value
  rw [select_eq_some_iff hkeys, select_eq_some_iff hkeys, h.selects_iff, h.selects_iff]
  refine exists_congr fun key => and_congr_right fun _ => ?_
  exact ⟨fun hkey => asciiEqual_trans hkey hcase,
    fun hkey => asciiEqual_trans hkey (asciiEqual_symm hcase)⟩

/-- A member whose key is no form of a name does not change what the name selects. -/
theorem select_insertMember (added : Value) (members : List (String × Value)) {key : String}
    (h : asciiEqual key name = false) :
    select (insertMember key added members) name = select members name := by
  have hne : key ≠ name := by
    rintro rfl
    rw [asciiEqual_self] at h
    cases h
  have hexact := find?_insertMember (fun key => decide (key = name)) added members
    (decide_eq_false hne)
  have hcase := find?_insertMember (fun key => asciiEqual key name) added members h
  rw [select, select, hexact, hcase]

end Select

/-! ## Properties -/

/-- **Which property a name selects.** An object whose members are in order, as they are in all that
is read or put together, has a property under a name exactly if the name selects a member that is
printed, and no other value has any. Where no two keys are equal up to the case of A to Z, the case
of a name does not matter. A member that is added is found under its own key, and changes nothing
for the names that are no form of it. -/
theorem property_selected {model : Model} (h : model.value.Ordered) :
    (∀ name text, model.property name = some text ↔
      ∃ members key selected, model.value = .object members ∧
        Selects members name key selected ∧ Prints selected text) ∧
    (∀ name, model.property name = none ↔
      ∀ members key selected, model.value = .object members →
        Selects members name key selected → selected = .null) ∧
    ∀ members, model.value = .object members →
      (Apart members → ∀ name other, asciiEqual name other = true →
        model.property name = model.property other) ∧
      ∀ key added,
        let grown : Model := ⟨.object (insertMember key added members)⟩
        grown.property key = printed added ∧
        ∀ name, asciiEqual key name = false → grown.property name = model.property name := by
  refine ⟨fun name text => property_eq_some_iff h, fun name => property_eq_none_iff h, ?_⟩
  obtain ⟨value⟩ := model
  rintro members rfl
  refine ⟨fun hapart name other hcase => ?_, fun key added => ⟨?_, fun name hother => ?_⟩⟩
  · rw [property_object, property_object, select_caseless h.ascending hapart hcase]
  · have hfound := (Selects.exact (self_mem_insertMember key added members)).select_eq
      (ascending_insertMember h.ascending key added)
    rw [property_object, hfound, Option.bind_some]
  · rw [property_object, property_object, select_insertMember added members hother]

/-- The least form of a name is selected where the name itself is no key; where it is one, it is
selected even if it is null. -/
theorem property_selected_title :
    let model : Model :=
      ⟨Value.ofMembers
        [("count", .number (.integer 3)), ("Title", .null), ("TITLE", .string "Menu")]⟩
    model.value.Ordered ∧ model.property "title" = some "Menu" ∧ model.property "Title" = none ∧
      model.property "COUNT" = some "3" := by
  intro model
  have hvalue : model.value = .object
      [("TITLE", .string "Menu"), ("Title", .null), ("count", .number (.integer 3))] := rfl
  have h : model.value.Ordered := by
    refine Value.ordered_ofMembers ?_
    simp only [List.forall_mem_cons]
    exact ⟨.number _, .null, .string _, List.forall_mem_nil _⟩
  obtain ⟨hsome, hnone, -⟩ := property_selected h
  refine ⟨h, (hsome _ _).mpr ?_, (hnone _).mpr ?_, (hsome _ _).mpr ?_⟩
  · refine ⟨_, "TITLE", _, hvalue, .least (by simp) (by decide) (by decide) ?_, .string _⟩
    simp only [Utf8.encode_le_iff]
    decide
  · intro members key selected hmembers hselects
    obtain rfl := Value.object.inj (hvalue.symm.trans hmembers)
    cases hselects with
    | exact hmem => simpa using hmem
    | least _ hnone => exact absurd rfl (hnone ("Title", .null) (by simp))
  · refine ⟨_, "count", .number (.integer 3), hvalue, .least (by simp) (by decide) (by decide) ?_,
      .json nofun nofun⟩
    simp only [Utf8.encode_le_iff]
    decide

end Folio.Model
