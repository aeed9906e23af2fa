import Mathlib.Data.Finset.Card
import Mathlib.Data.List.Basic
import Mathlib.Data.String.Basic
import Mathlib.Tactic.Ring
import Folio.Folder.Walk
import Folio.Proofs.Folder.Naming

/-!
# The files of a walk

A walk goes down to every file that names lead to from its root, and meets them in the order of
these names. The names are those of the entries on the way. A link is taken unless it leads back
into a folder the walk is in, so no way down is longer than a bound that the disk gives.

* `Disk.enter?`, **`Disk.Reaches`**: the way down from a place; names that lead to a file.
* `Disk.trails`: the ways to files that a walk with some fuel finds.
* `Disk.ahead`, `Disk.Reaches.length_lt`: how long a way is at most.
* `Disk.mem_trails`, `Disk.le_of_find?_trails`: which ways a walk finds, and which first.
* **`Disk.find?_files_eq_some_iff`**, `Disk.find?_files_eq_none_iff`: the first file of a walk that
  passes a test.
-/

namespace Folio.Disk

/-- The place that a name in a folder leads to, if a walk goes there. `within` holds the folders the
walk has come through. -/
def enter? (disk : Disk) (within : List Place) (place : Place) (name : String) : Option Place :=
  match disk.get? (place ++ [name]) with
  | some (.link _) =>
    match disk.follow maxLinks place [name] with
    | .error _ => none
    | .ok target => if target ∈ place :: within then none else some target
  | some _ => some (place ++ [name])
  | none => none

/-- **The names lead to a file.** Nothing is left to go at the file itself; every name before it is
one in a folder. -/
def Reaches (disk : Disk) (within : List Place) (place : Place) : List String → Prop
  | [] => ∃ bytes, disk.get? place = some (.file bytes)
  | name :: names => disk.get? place = some .folder ∧
      ∃ next, disk.enter? within place name = some next ∧ Reaches disk (place :: within) next names

/-- The ways to files that a walk finds, in its order. -/
def trails (disk : Disk) (within : List Place) (place : Place) : Nat → List (List String)
  | 0 => []
  | fuel + 1 =>
    match disk.get? place with
    | some (.file _) => [[]]
    | some .folder => (disk.names place).flatMap fun name =>
      match disk.enter? within place name with
      | none => []
      | some next => (disk.trails (place :: within) next fuel).map (name :: ·)
    | _ => []

/-- **A path leads to a file below a root**: the path is the root with the names on the way. -/
def ReachesFrom (disk : Disk) (root : String) (names : List String) : Prop :=
  ∃ place, disk.resolve root = .ok place ∧ disk.Reaches [] place names

variable {disk : Disk} {within : List Place} {place : Place}

/-! ## Paths and ways -/

/-- The files of a walk are the ends of its ways. -/
theorem filesFrom_eq (path : String) (fuel : Nat) :
    disk.filesFrom within path place fuel =
      (disk.trails within place fuel).map fun names => names.foldl joinPath path := by
  induction fuel generalizing within path place with
  | zero => rfl
  | succ fuel ih =>
    rw [filesFrom, trails]
    cases disk.get? place with
    | none => rfl
    | some entry =>
      cases entry with
      | file bytes => rfl
      | link target => rfl
      | folder =>
        rw [List.map_flatMap]
        refine congrArg (fun f => (disk.names place).flatMap f) (funext fun name => ?_)
        dsimp only
        rw [enter?]
        cases hentry : disk.get? (place ++ [name]) with
        | none => rfl
        | some entry =>
          cases entry with
          | file bytes => rw [ih, List.map_map]; rfl
          | folder => rw [ih, List.map_map]; rfl
          | link target =>
            cases hfollow : disk.follow maxLinks place [name] with
            | error e => rfl
            | ok next =>
              by_cases hloop : next ∈ place :: within
              · simp only [hloop, List.contains_eq_mem, decide_true, if_true]
                rfl
              · simp only [hloop, List.contains_eq_mem, decide_false, if_false]
                rw [ih, List.map_map]
                rfl

/-! ## The length of a way -/

/-- All places of a disk. -/
def places (disk : Disk) : Finset Place :=
  insert [] (disk.entries.map Prod.fst).toFinset

theorem card_places_le : disk.places.card ≤ disk.entries.length + 1 := by
  have hentries := (disk.entries.map Prod.fst).toFinset_card_le
  have hinsert := Finset.card_insert_le [] (disk.entries.map Prod.fst).toFinset
  rw [List.length_map] at hentries
  exact hinsert.trans (Nat.add_le_add_right hentries 1)

/-- What stands below the root is one of the entries. -/
theorem mem_entries {entry : Entry} {name : String}
    (h : disk.get? (place ++ [name]) = some entry) :
    ∃ found ∈ disk.entries, found.1 = place ++ [name] := by
  rw [get?, if_neg (by simp)] at h
  obtain ⟨found, hfound, -⟩ := Option.map_eq_some_iff.mp h
  have hplace := List.find?_some hfound
  exact ⟨found, List.mem_of_find?_eq_some hfound, of_decide_eq_true hplace⟩

theorem mem_places {entry : Entry} (h : disk.get? place = some entry) : place ∈ disk.places := by
  simp only [places, Finset.mem_insert, List.mem_toFinset, List.mem_map]
  induction place using List.reverseRecOn with
  | nil => exact .inl rfl
  | append_singleton place name => exact .inr (mem_entries h)

/-- How much of a disk lies ahead of a walk: links may be taken to all places that it has not come
to, and from each of them it may go down to all places further down. -/
def ahead (disk : Disk) (within : List Place) (place : Place) : Nat :=
  (disk.places.filter (· ∉ place :: within)).card * disk.places.card +
    (disk.places.filter (place.length < ·.length)).card

/-- A link that is taken leaves one place less to take links to. -/
theorem card_new_lt {next : Place} (hnext : next ∈ disk.places) (hnew : next ∉ place :: within) :
    (disk.places.filter (· ∉ next :: place :: within)).card <
      (disk.places.filter (· ∉ place :: within)).card := by
  refine Finset.card_lt_card ((Finset.ssubset_iff_of_subset ?_).mpr ⟨next, ?_, ?_⟩)
  · intro other hother
    rw [Finset.mem_filter] at hother ⊢
    exact ⟨hother.1, fun hmem => hother.2 (List.mem_cons_of_mem next hmem)⟩
  · exact Finset.mem_filter.mpr ⟨hnext, hnew⟩
  · intro hmem
    exact (Finset.mem_filter.mp hmem).2 List.mem_cons_self

/-- A step down leaves one place less further down. -/
theorem card_deeper_lt {next : Place} (hnext : next ∈ disk.places)
    (hlength : place.length < next.length) :
    (disk.places.filter (next.length < ·.length)).card <
      (disk.places.filter (place.length < ·.length)).card := by
  refine Finset.card_lt_card ((Finset.ssubset_iff_of_subset ?_).mpr ⟨next, ?_, ?_⟩)
  · intro other hother
    rw [Finset.mem_filter] at hother ⊢
    exact ⟨hother.1, hlength.trans hother.2⟩
  · exact Finset.mem_filter.mpr ⟨hnext, hlength⟩
  · intro hmem
    exact absurd (Finset.mem_filter.mp hmem).2 (lt_irrefl _)

/-- A walk goes down to the name itself, or takes a link to a place that it has not come to. -/
theorem enter?_cases {name : String} {next : Place}
    (h : disk.enter? within place name = some next) :
    next = place ++ [name] ∨ next ∉ place :: within := by
  rw [enter?] at h
  cases hentry : disk.get? (place ++ [name]) with
  | none => simp [hentry] at h
  | some entry =>
    rw [hentry] at h
    cases entry with
    | file bytes => exact .inl (Option.some.inj h).symm
    | folder => exact .inl (Option.some.inj h).symm
    | link target =>
      cases hfollow : disk.follow maxLinks place [name] with
      | error e => simp [hfollow] at h
      | ok target =>
        simp only [hfollow, Option.ite_none_left_eq_some, Option.some.injEq] at h
        obtain ⟨hnew, rfl⟩ := h
        exact .inr hnew

/-- **With each folder entered, less lies ahead.** -/
theorem ahead_lt {name : String} {next : Place} (h : disk.enter? within place name = some next)
    (hfolder : disk.get? next = some .folder) :
    disk.ahead (place :: within) next < disk.ahead within place := by
  have hnext := mem_places hfolder
  rcases enter?_cases h with hdown | hnew
  · -- No place is new after a step down, and one place less lies further down.
    have hlength : place.length < next.length := by simp [hdown]
    have hdeeper := card_deeper_lt hnext hlength
    have hnew : (disk.places.filter (· ∉ next :: place :: within)).card ≤
        (disk.places.filter (· ∉ place :: within)).card := by
      refine Finset.card_le_card fun other hother => ?_
      rw [Finset.mem_filter] at hother ⊢
      exact ⟨hother.1, fun hmem => hother.2 (List.mem_cons_of_mem next hmem)⟩
    exact Nat.add_lt_add_of_le_of_lt (Nat.mul_le_mul_right _ hnew) hdeeper
  · -- All that may lie further down from the new place is paid for by its being new.
    have hfewer := card_new_lt hnext hnew
    have hdeeper : (disk.places.filter (next.length < ·.length)).card < disk.places.card :=
      Finset.card_lt_card (Finset.filter_ssubset.mpr ⟨next, hnext, lt_irrefl _⟩)
    calc disk.ahead (place :: within) next
        < (disk.places.filter (· ∉ next :: place :: within)).card * disk.places.card +
          disk.places.card := Nat.add_lt_add_left hdeeper _
      _ = ((disk.places.filter (· ∉ next :: place :: within)).card + 1) * disk.places.card :=
          (Nat.succ_mul _ _).symm
      _ ≤ (disk.places.filter (· ∉ place :: within)).card * disk.places.card :=
          Nat.mul_le_mul_right _ hfewer
      _ ≤ disk.ahead within place := Nat.le_add_right _ _

theorem Reaches.length_le {names : List String} (h : disk.Reaches within place names) :
    names.length ≤ disk.ahead within place + 1 := by
  induction names generalizing within place with
  | nil => exact Nat.zero_le _
  | cons name names ih =>
    obtain ⟨-, next, hnext, hrest⟩ := h
    cases names with
    | nil => exact Nat.le_add_left _ _
    | cons name' names =>
      have hlt := ahead_lt hnext hrest.1
      have hle := ih hrest
      rw [List.length_cons]
      omega

/-- **No way is as long as the fuel of a walk.** -/
theorem Reaches.length_lt {names : List String} (h : disk.Reaches within place names) :
    names.length < (disk.entries.length + 2) * (disk.entries.length + 2) := by
  have hcard := disk.card_places_le
  have hahead : disk.ahead within place ≤
      (disk.entries.length + 1) * (disk.entries.length + 1) + (disk.entries.length + 1) := by
    refine Nat.add_le_add (Nat.mul_le_mul ?_ hcard) ?_
    · exact (Finset.card_filter_le _ _).trans hcard
    · exact (Finset.card_filter_le _ _).trans hcard
  have hlength := h.length_le
  have hsquare : (disk.entries.length + 2) * (disk.entries.length + 2) =
      (disk.entries.length + 1) * (disk.entries.length + 1) + 2 * disk.entries.length + 3 := by
    ring
  omega

/-! ## The ways of a walk -/

theorem mem_names {entry : Entry} {name : String}
    (h : disk.get? (place ++ [name]) = some entry) : name ∈ disk.names place := by
  obtain ⟨found, hfound, hplace⟩ := mem_entries h
  rw [names, List.mem_mergeSort, List.mem_filterMap]
  exact ⟨found, hfound, by simp [hplace]⟩

theorem get?_of_enter? {name : String} {next : Place}
    (h : disk.enter? within place name = some next) :
    ∃ entry, disk.get? (place ++ [name]) = some entry := by
  rw [enter?] at h
  cases hentry : disk.get? (place ++ [name]) with
  | none => simp [hentry] at h
  | some entry => exact ⟨entry, rfl⟩

theorem trails_of_folder (h : disk.get? place = some .folder) (fuel : Nat) :
    disk.trails within place (fuel + 1) = (disk.names place).flatMap fun name =>
      match disk.enter? within place name with
      | none => []
      | some next => (disk.trails (place :: within) next fuel).map (name :: ·) := by
  rw [trails, h]

/-- **A walk finds all ways to files** that its fuel lasts for. -/
theorem mem_trails {fuel : Nat} {names : List String} :
    names ∈ disk.trails within place fuel ↔
      names.length < fuel ∧ disk.Reaches within place names := by
  induction fuel generalizing within place names with
  | zero => simp [trails]
  | succ fuel ih =>
    by_cases hfolder : disk.get? place = some .folder
    · rw [trails_of_folder hfolder, List.mem_flatMap]
      cases names with
      | nil =>
        refine iff_of_false ?_ fun h => ?_
        · rintro ⟨name, -, hname⟩
          cases hnext : disk.enter? within place name <;> simp [hnext] at hname
        · obtain ⟨-, bytes, hfile⟩ := h
          simp [hfolder] at hfile
      | cons name names =>
        rw [List.length_cons, Nat.succ_lt_succ_iff]
        constructor
        · rintro ⟨name', -, hname⟩
          cases hnext : disk.enter? within place name' with
          | none => simp [hnext] at hname
          | some next =>
            simp only [hnext, List.mem_map, List.cons.injEq] at hname
            obtain ⟨names', hnames, rfl, rfl⟩ := hname
            obtain ⟨hlength, hreaches⟩ := ih.mp hnames
            exact ⟨hlength, hfolder, next, hnext, hreaches⟩
        · rintro ⟨hlength, -, next, hnext, hreaches⟩
          obtain ⟨entry, hentry⟩ := get?_of_enter? hnext
          refine ⟨name, mem_names hentry, ?_⟩
          rw [hnext]
          exact List.mem_map_of_mem (ih.mpr ⟨hlength, hreaches⟩)
    · -- Below a place that is no folder there is nothing, and a file is its own end.
      rw [trails]
      cases hplace : disk.get? place with
      | none => cases names <;> simp [Reaches, hplace]
      | some entry =>
        cases entry with
        | file bytes => cases names <;> simp [Reaches, hplace]
        | folder => exact absurd hplace hfolder
        | link target => cases names <;> simp [Reaches, hplace]

theorem pairwise_names (disk : Disk) (folder : Place) :
    (disk.names folder).Pairwise (· ≤ ·) := by
  have htrans (a b c : String) (hab : decide (a ≤ b)) (hbc : decide (b ≤ c)) :
      decide (a ≤ c) :=
    decide_eq_true (le_trans (of_decide_eq_true hab) (of_decide_eq_true hbc))
  have htotal (a b : String) : decide (a ≤ b) || decide (b ≤ a) := by
    simpa using le_total a b
  exact (List.pairwise_mergeSort htrans htotal _).imp of_decide_eq_true

/-- **In a walk, the first way that passes a test comes before all others that do.** -/
theorem le_of_find?_trails {fuel : Nat} {test : List String → Bool} {names other : List String}
    (h : (disk.trails within place fuel).find? test = some names)
    (hother : other ∈ disk.trails within place fuel) (htest : test other) : names ≤ other := by
  induction fuel generalizing within place test names other with
  | zero => simp [trails] at h
  | succ fuel ih =>
    by_cases hfolder : disk.get? place = some .folder
    · rw [trails_of_folder hfolder] at h hother
      rw [List.find?_flatMap, List.findSome?_eq_some_iff] at h
      obtain ⟨before, name, after, hnames, hfind, hbefore⟩ := h
      obtain ⟨name', hname', hother⟩ := List.mem_flatMap.mp hother
      have hsorted := disk.pairwise_names place
      rw [hnames] at hname' hsorted
      have hle : name ≤ name' := by
        rcases List.mem_append.mp hname' with hname' | hname'
        · have hnone := List.find?_eq_none.mp (hbefore name' hname') other hother
          exact absurd htest hnone
        · rcases List.mem_cons.mp hname' with rfl | hname'
          · exact le_rfl
          · exact List.rel_of_pairwise_cons (List.pairwise_append.mp hsorted).2.1 hname'
      cases hnext : disk.enter? within place name with
      | none => simp [hnext] at hfind
      | some next =>
        cases hnext' : disk.enter? within place name' with
        | none => simp [hnext'] at hother
        | some next' =>
          simp only [hnext, List.find?_map, Option.map_eq_some_iff] at hfind
          simp only [hnext', List.mem_map] at hother
          obtain ⟨rest, hrest, rfl⟩ := hfind
          obtain ⟨rest', hrest', rfl⟩ := hother
          rcases hle.lt_or_eq with hlt | rfl
          · exact le_of_lt (List.Lex.rel hlt)
          · obtain rfl := Option.some.inj (hnext.symm.trans hnext')
            exact List.cons_le_cons _ (ih hrest hrest' htest)
    · -- The walk stands at a file, and there is one way: to stay.
      have hnil {way : List String} (hway : way ∈ disk.trails within place (fuel + 1)) :
          way = [] := by
        cases way with
        | nil => rfl
        | cons name way => exact absurd (mem_trails.mp hway).2.1 hfolder
      rw [hnil (List.mem_of_find?_eq_some h), hnil hother]

/-! ## The files of a walk -/

/-- The files of a walk stand at the ends of all ways down from its root. The first of them that
passes a test is that of the first way. -/
theorem files_eq (disk : Disk) (root : String) :
    ∃ ways : List (List String),
      disk.files root = ways.map (fun names => names.foldl joinPath root) ∧
      (∀ names, names ∈ ways ↔ disk.ReachesFrom root names) ∧
      ∀ (test : List String → Bool) (names other : List String),
        ways.find? test = some names → other ∈ ways → test other → names ≤ other := by
  rw [files]
  cases hroot : disk.resolve root with
  | error e =>
    refine ⟨[], rfl, fun names => iff_of_false List.not_mem_nil ?_, by simp⟩
    rintro ⟨place, hplace, -⟩
    simp [hroot] at hplace
  | ok place =>
    refine ⟨_, filesFrom_eq root _, fun names => mem_trails.trans ?_,
      fun test names other => le_of_find?_trails⟩
    constructor
    · exact fun h => ⟨place, hroot, h.2⟩
    · rintro ⟨place', hplace, h⟩
      obtain rfl := Except.ok.inj (hroot.symm.trans hplace)
      exact ⟨h.length_lt, h⟩

/-- **The first file of a walk that passes a test** is that of the way that comes first, among all
ways down from the root to a file that passes it. -/
theorem find?_files_eq_some_iff {root path : String} {test : String → Bool} :
    (disk.files root).find? test = some path ↔
      ∃ names, disk.ReachesFrom root names ∧ test (names.foldl joinPath root) ∧
        (∀ other, disk.ReachesFrom root other → test (other.foldl joinPath root) →
          names ≤ other) ∧ path = names.foldl joinPath root := by
  obtain ⟨ways, hfiles, hways, hfirst⟩ := disk.files_eq root
  rw [hfiles, List.find?_map, Option.map_eq_some_iff]
  constructor
  · rintro ⟨names, hfind, rfl⟩
    have hreaches := (hways names).mp (List.mem_of_find?_eq_some hfind)
    have htest := List.find?_some hfind
    exact ⟨names, hreaches, htest,
      fun other hother htest => hfirst _ _ _ hfind ((hways other).mpr hother) htest, rfl⟩
  · rintro ⟨names, hreaches, htest, hleast, rfl⟩
    have hmem := (hways names).mpr hreaches
    cases hfind : ways.find? (test ∘ fun names => names.foldl joinPath root) with
    | none => exact absurd htest (List.find?_eq_none.mp hfind names hmem)
    | some found =>
      have hfound := (hways found).mp (List.mem_of_find?_eq_some hfind)
      have hpasses := List.find?_some hfind
      have hle := hleast found hfound hpasses
      exact ⟨found, rfl, congrArg _ (le_antisymm (hfirst _ _ _ hfind hmem htest) hle)⟩

/-- No file of a walk passes a test if no way down from the root leads to one that does. -/
theorem find?_files_eq_none_iff {root : String} {test : String → Bool} :
    (disk.files root).find? test = none ↔
      ∀ names, disk.ReachesFrom root names → ¬ test (names.foldl joinPath root) := by
  obtain ⟨ways, hfiles, hways, -⟩ := disk.files_eq root
  rw [hfiles, List.find?_eq_none, List.forall_mem_map]
  exact forall_congr' fun names => imp_congr_left (hways names)

/-! ## Where the files are -/

/-- On a disk whose names have no slashes, no name on a way has one. -/
theorem Reaches.plain (hnamed : disk.Named) {names : List String}
    (h : disk.Reaches within place names) : Plain names := by
  induction names generalizing within place with
  | nil => exact List.forall_mem_nil _
  | cons name names ih =>
    obtain ⟨-, next, hnext, hrest⟩ := h
    obtain ⟨entry, hentry⟩ := get?_of_enter? hnext
    obtain ⟨found, hfound, hplace⟩ := mem_entries hentry
    have hname := hnamed found hfound name (by simp [hplace])
    exact List.forall_mem_cons.mpr ⟨hname, ih hrest⟩

/-- **A way leads to a file below its root.** -/
theorem ReachesFrom.under (hnamed : disk.Named) {root : String} {names : List String}
    (h : disk.ReachesFrom root names) :
    components root <+: components (names.foldl joinPath root) := by
  obtain ⟨place, hplace, hreaches⟩ := h
  have hroot : root ≠ "" := by
    rintro rfl
    simp [resolve] at hplace
  exact components_foldl_joinPath hroot (hreaches.plain hnamed)

end Folio.Disk
