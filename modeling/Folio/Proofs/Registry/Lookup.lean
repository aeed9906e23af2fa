import Folio.Registry.Basic
import Mathlib.Data.List.Nodup

/-!
# Looking up what was put in

The last thing that was put under a key is found there, and what is under other keys stays.

* `find?_filter_key`: looking up after a key was taken out; `isSome_find?_key_iff`: the keys under
  which anything is found.
* `nodup_keys_cons_filter`: no key stands twice; `find?_of_mem_key`: then what is there is found.
* `IsLast`: the last element with a property; `find?_reverse_eq_some_iff`: looking for it.
* `Registry.get?_setEntry`: looking up after a descriptor was put under an identifier.
* `Registry.mem_entries_of_get?`, `Registry.mem_constructors_of_constructor?`: what is found is
  there.
* `Registry.register_eq_ok`: what a registration puts in, and what it leaves.
-/

namespace Folio

theorem find?_filter_key {κ ν : Type} [DecidableEq κ] (entries : List (κ × ν)) (key other : κ) :
    (entries.filter fun entry => entry.1 ≠ key).find? (fun entry => entry.1 = other) =
      if other = key then none else entries.find? fun entry => entry.1 = other := by
  rw [List.find?_filter]
  by_cases h : other = key
  · subst h
    rw [if_pos rfl]
    refine List.find?_eq_none.mpr fun entry _ => ?_
    simp
  · rw [if_neg h]
    congr 1
    funext entry
    by_cases hentry : entry.1 = other
    · simp [hentry, h]
    · simp [hentry]

theorem mem_of_find?_key {κ ν : Type} [DecidableEq κ] {entries : List (κ × ν)} {key : κ} {value : ν}
    (h : (entries.find? fun entry => entry.1 = key).map Prod.snd = some value) :
    (key, value) ∈ entries := by
  obtain ⟨entry, hentry, rfl⟩ := Option.map_eq_some_iff.mp h
  have hkey := List.find?_some hentry
  obtain rfl : entry.1 = key := by simpa using hkey
  exact List.mem_of_find?_eq_some hentry

theorem find?_of_mem_key {κ ν : Type} [DecidableEq κ] {entries : List (κ × ν)} {entry : κ × ν}
    (h : (entries.map Prod.fst).Nodup) (hentry : entry ∈ entries) :
    (entries.find? fun other => other.1 = entry.1).map Prod.snd = some entry.2 := by
  cases hfind : entries.find? fun other => other.1 = entry.1 with
  | none => exact absurd (decide_eq_true rfl) (List.find?_eq_none.mp hfind entry hentry)
  | some found =>
    have hkey : found.1 = entry.1 := by simpa using List.find?_some hfind
    rw [List.inj_on_of_nodup_map h (List.mem_of_find?_eq_some hfind) hentry hkey, Option.map_some]

theorem isSome_find?_key_iff {κ ν : Type} [DecidableEq κ] {entries : List (κ × ν)} {key : κ} :
    (entries.find? fun entry => entry.1 = key).isSome = true ↔ key ∈ entries.map Prod.fst := by
  rw [List.find?_isSome, List.mem_map]
  simp only [decide_eq_true_eq]

/-- No key stands twice after something was put under one. -/
theorem nodup_keys_cons_filter {κ ν : Type} [DecidableEq κ] {entries : List (κ × ν)}
    (h : (entries.map Prod.fst).Nodup) (key : κ) (value : ν) :
    (((key, value) :: entries.filter fun entry => entry.1 ≠ key).map Prod.fst).Nodup := by
  refine List.nodup_cons.mpr ⟨fun hmem => ?_, h.sublist (List.filter_sublist.map _)⟩
  obtain ⟨entry, hentry, hsame⟩ := List.mem_map.mp hmem
  simpa [hsame] using (List.mem_filter.mp hentry).2

/-- The last element with a property. -/
def IsLast {ι : Type} (p : ι → Prop) (xs : List ι) (x : ι) : Prop :=
  p x ∧ ∃ earlier later, xs = earlier ++ x :: later ∧ ∀ y ∈ later, ¬ p y

theorem IsLast.mem {ι : Type} {p : ι → Prop} {xs : List ι} {x : ι} (h : IsLast p xs x) :
    x ∈ xs := by
  obtain ⟨-, earlier, later, rfl, -⟩ := h
  exact List.mem_append_right _ List.mem_cons_self

theorem find?_reverse_eq_some_iff {ι : Type} {p : ι → Bool} {xs : List ι} {x : ι} :
    xs.reverse.find? p = some x ↔ IsLast (fun y => p y = true) xs x := by
  rw [List.find?_eq_some_iff_append]
  refine and_congr_right fun _ => ⟨?_, ?_⟩
  · rintro ⟨later, earlier, hxs, hlater⟩
    refine ⟨earlier.reverse, later.reverse, ?_, fun y hy => ?_⟩
    · rw [← List.reverse_reverse xs, hxs, List.reverse_append, List.reverse_cons,
        List.append_assoc, List.singleton_append]
    · simpa using hlater y (List.mem_reverse.mp hy)
  · rintro ⟨earlier, later, rfl, hlater⟩
    refine ⟨later.reverse, earlier.reverse, ?_, fun y hy => ?_⟩
    · rw [List.reverse_append, List.reverse_cons, List.append_assoc, List.singleton_append]
    · simpa using hlater y (List.mem_reverse.mp hy)

namespace Registry

variable {α : Type}

theorem nodup_setEntry {registry : Registry α} (h : (registry.entries.map Prod.fst).Nodup)
    (identifier : String) (descriptor : Descriptor α) :
    ((registry.setEntry identifier descriptor).entries.map Prod.fst).Nodup :=
  nodup_keys_cons_filter h identifier descriptor

theorem get?_setEntry (registry : Registry α) (identifier other : String)
    (descriptor : Descriptor α) :
    (registry.setEntry identifier descriptor).get? other =
      if other = identifier then some descriptor else registry.get? other := by
  unfold get? setEntry
  dsimp only
  rw [List.find?_cons, find?_filter_key]
  by_cases h : other = identifier
  · rw [decide_eq_true h.symm]
    exact (if_pos h).symm
  · rw [if_neg h, if_neg h, decide_eq_false (Ne.symm h)]

theorem mem_entries_of_get? {registry : Registry α} {identifier : String}
    {descriptor : Descriptor α} (h : registry.get? identifier = some descriptor) :
    (identifier, descriptor) ∈ registry.entries :=
  mem_of_find?_key h

theorem mem_constructors_of_constructor? {registry : Registry α} {id : Nat}
    {signature : Signature} {constructor : Constructor α}
    (h : registry.constructor? id signature = some constructor) :
    ((id, signature), constructor) ∈ registry.constructors :=
  mem_of_find?_key h

theorem evictUnregistered_entries (registry : Registry α) (id : Nat) :
    (registry.evictUnregistered id).entries = registry.entries := by
  unfold evictUnregistered
  split <;> rfl

theorem evictUnregistered_kind (registry : Registry α) (id : Nat) :
    (registry.evictUnregistered id).kind = registry.kind := by
  unfold evictUnregistered
  split <;> rfl

theorem evictUnregistered_constructors_subset (registry : Registry α) (id : Nat) :
    (registry.evictUnregistered id).constructors ⊆ registry.constructors := by
  unfold evictUnregistered
  split
  · exact List.Subset.refl _
  · exact List.filter_sublist.subset

/-- A descriptor is put under an identifier; what is dropped for it was kept before. -/
theorem register_eq_ok {registry : Registry α} {identifier : String} (h : identifier ≠ "")
    (descriptor : Descriptor α) :
    ∃ next, registry.register identifier descriptor = .ok next ∧ next.kind = registry.kind ∧
      next.entries = (registry.setEntry identifier descriptor).entries ∧
      next.constructors ⊆ registry.constructors := by
  unfold register
  rw [if_neg h]
  cases registry.get? identifier with
  | none => exact ⟨_, rfl, rfl, rfl, List.Subset.refl _⟩
  | some prior =>
    dsimp only
    split
    · exact ⟨_, rfl, rfl, rfl, List.Subset.refl _⟩
    · exact ⟨_, rfl, evictUnregistered_kind _ _, evictUnregistered_entries _ _,
        evictUnregistered_constructors_subset _ _⟩

end Registry

end Folio
