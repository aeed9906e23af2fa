import Mathlib.Data.Set.Card
import Folio.Proofs.Folder.Walking
import Folio.Proofs.Render.Keeping

/-!
# Names that are located over time

A folder of templates changes while names are located in it. A name that was located once keeps its
path, whatever becomes of the folder and wherever a later call would search. Until then each call
searches anew.

* `Moment`, `Locator`: what happens, and what there is in between.
* `Relative`: the names that are searched for.
* **`Disk.IsFirst`**: the first file of a walk whose path ends with a name.
* `locate_cases`: what a call does.
* **`Locator.Gave`**: the paths that calls of a history have given.
* `Locator.path?_next`, `Locator.path?_after`: remembered are those, step by step.
* `Locator.tidy_after`, `Locator.length_after`: no name is remembered twice.
* `Locator.Gave.origin`, `Locator.Gave.under`: where a path comes from, and below which root it
  lies.
* **`Locator.locate_after`**: what a call does after any history.
-/

namespace Folio

/-- The name is searched for: it is not empty, and does not begin at the root. -/
def Relative (name : String) : Prop :=
  name ≠ "" ∧ isAbsolute name = false

/-- **The first file of a walk whose path ends with the name**, component by component. Of all ways
down from the root to such a file, it is at the end of the one that comes first. -/
def Disk.IsFirst (disk : Disk) (root name path : String) : Prop :=
  ∃ names, disk.ReachesFrom root names ∧
    components name <:+ components (names.foldl joinPath root) ∧
    (∀ other, disk.ReachesFrom root other →
      components name <:+ components (other.foldl joinPath root) → names ≤ other) ∧
    path = names.foldl joinPath root

/-- No file of a walk has a path that ends with the name. -/
def Disk.Lacks (disk : Disk) (root name : String) : Prop :=
  ∀ names, disk.ReachesFrom root names →
    ¬ components name <:+ components (names.foldl joinPath root)

/-- There is one first file at most. -/
theorem Disk.IsFirst.unique {disk : Disk} {root name path other : String}
    (h : disk.IsFirst root name path) (hother : disk.IsFirst root name other) : path = other := by
  obtain ⟨names, hreaches, hends, hleast, rfl⟩ := h
  obtain ⟨names', hreaches', hends', hleast', rfl⟩ := hother
  rw [le_antisymm (hleast names' hreaches' hends') (hleast' names hreaches hends)]

theorem Disk.IsFirst.not_lacks {disk : Disk} {root name path : String}
    (h : disk.IsFirst root name path) : ¬ disk.Lacks root name := by
  obtain ⟨names, hreaches, hends, -⟩ := h
  exact fun hlacks => hlacks names hreaches hends

/-- On a disk whose names have no slashes, the first file of a walk lies under its root. -/
theorem Disk.IsFirst.under {disk : Disk} (hnamed : disk.Named) {root name path : String}
    (h : disk.IsFirst root name path) : components root <+: components path := by
  obtain ⟨names, hreaches, -, -, rfl⟩ := h
  exact hreaches.under hnamed

theorem endsWith_iff {path name : String} :
    endsWith path name = true ↔ components name <:+ components path :=
  List.isSuffixOf_iff_suffix

theorem search_eq_some_iff {disk : Disk} {root name path : String} :
    search disk root name = some path ↔ disk.IsFirst root name path := by
  simp only [search, Disk.find?_files_eq_some_iff, Disk.IsFirst, endsWith_iff]

theorem search_eq_none_iff {disk : Disk} {root name : String} :
    search disk root name = none ↔ disk.Lacks root name := by
  simp only [search, Disk.find?_files_eq_none_iff, Disk.Lacks, endsWith_iff]

/-- **What a call does.** -/
theorem locate_cases (rootFolder : Option String) (disk : Disk) (located : Located)
    (name hint : String) :
    let root := rootFolder.getD hint
    let answer := locate rootFolder disk located name hint
    (name = "" ∧ answer = (.error (.templateNotFound "" root), located)) ∨
    (isAbsolute name ∧ answer = (.ok name, located)) ∨
    (Relative name ∧ ∃ path, located.path? name = some path ∧ answer = (.ok path, located)) ∨
    (Relative name ∧ located.path? name = none ∧ ∃ path, disk.IsFirst root name path ∧
      answer = (.ok path, located ++ [(name, path)])) ∨
    (Relative name ∧ located.path? name = none ∧ disk.Lacks root name ∧
      answer = (.error (.templateNotFound name root), located)) := by
  dsimp only
  rw [locate]
  by_cases hempty : name = ""
  · exact .inl ⟨hempty, if_pos hempty⟩
  rw [if_neg hempty]
  by_cases habsolute : isAbsolute name
  · exact .inr (.inl ⟨habsolute, if_pos habsolute⟩)
  rw [if_neg habsolute]
  have hrelative : Relative name := ⟨hempty, Bool.eq_false_iff.mpr habsolute⟩
  refine .inr (.inr ?_)
  cases hpath : located.path? name with
  | some path => exact .inl ⟨hrelative, path, rfl, rfl⟩
  | none =>
    cases hsearch : search disk (rootFolder.getD hint) name with
    | some path =>
      exact .inr (.inl ⟨hrelative, rfl, path, search_eq_some_iff.mp hsearch, rfl⟩)
    | none => exact .inr (.inr ⟨hrelative, rfl, search_eq_none_iff.mp hsearch, rfl⟩)

/-- What happens to a folder of templates. -/
inductive Moment
  /-- Its files change. -/
  | changes (disk : Disk)
  /-- A name is located. -/
  | locates (name hint : String)

/-- **A folder of templates**: the disk as it is, and what is remembered. -/
structure Locator where
  /-- Where to search, whatever a call hints at. -/
  rootFolder : Option String
  disk : Disk
  located : Located := []

namespace Locator

/-- A call. -/
def locate (locator : Locator) (name hint : String) : Except RenderError String × Located :=
  Folio.locate locator.rootFolder locator.disk locator.located name hint

/-- What there is after a moment. -/
def next (locator : Locator) : Moment → Locator
  | .changes disk => { locator with disk }
  | .locates name hint => { locator with located := (locator.locate name hint).2 }

/-- What there is after a history. -/
def after (locator : Locator) (history : List Moment) : Locator :=
  history.foldl next locator

/-- **A call in the history gave this path for the name.** -/
def Gave (start : Locator) (history : List Moment) (name path : String) : Prop :=
  ∃ before hint later, history = before ++ .locates name hint :: later ∧
    ((start.after before).locate name hint).1 = .ok path

variable {start : Locator} {history : List Moment} {name path : String}

theorem after_concat (start : Locator) (history : List Moment) (moment : Moment) :
    start.after (history ++ [moment]) = (start.after history).next moment := by
  rw [after, after, List.foldl_append]
  rfl

theorem rootFolder_after (start : Locator) (history : List Moment) :
    (start.after history).rootFolder = start.rootFolder := by
  induction history using List.reverseRecOn with
  | nil => rfl
  | append_singleton history moment ih =>
    rw [after_concat, ← ih]
    cases moment <;> rfl

theorem gave_concat {moment : Moment} :
    start.Gave (history ++ [moment]) name path ↔ start.Gave history name path ∨
      ∃ hint, moment = .locates name hint ∧
        ((start.after history).locate name hint).1 = .ok path := by
  constructor
  · rintro ⟨before, hint, later, hhistory, hpath⟩
    induction later using List.reverseRecOn with
    | nil =>
      obtain ⟨rfl, hmoment⟩ := List.append_inj' hhistory rfl
      exact .inr ⟨hint, List.singleton_inj.mp hmoment, hpath⟩
    | append_singleton later last _ =>
      rw [← List.cons_append, ← List.append_assoc] at hhistory
      obtain ⟨rfl, -⟩ := List.append_inj' hhistory rfl
      exact .inl ⟨before, hint, later, rfl, hpath⟩
  · rintro (⟨before, hint, later, rfl, hpath⟩ | ⟨hint, rfl, hpath⟩)
    · exact ⟨before, hint, later ++ [moment], by simp, hpath⟩
    · exact ⟨history, hint, [], rfl, hpath⟩

/-! ## What is remembered -/

/-- **A moment adds the path that it gives** to what is remembered, and changes nothing else of
it. -/
theorem path?_next (h : Relative name) (locator : Locator) (moment : Moment) :
    (locator.next moment).located.path? name = some path ↔
      locator.located.path? name = some path ∨
        ∃ hint, moment = .locates name hint ∧ (locator.locate name hint).1 = .ok path := by
  cases moment with
  | changes disk => simp [next]
  | locates asked hint =>
    -- Either the call gives nothing new for the name, or it is the first to give a path for it.
    have hsame (hlocated : (locator.locate asked hint).2 = locator.located)
        (hknown : asked = name → (locator.locate asked hint).1 = .ok path →
          locator.located.path? name = some path) :
        (locator.next (.locates asked hint)).located.path? name = some path ↔
          locator.located.path? name = some path ∨ ∃ hint',
            Moment.locates asked hint = .locates name hint' ∧
              (locator.locate name hint').1 = .ok path := by
      rw [next, hlocated, iff_self_or]
      rintro ⟨hint', hmoment, hpath⟩
      obtain ⟨rfl, rfl⟩ := Moment.locates.inj hmoment
      exact hknown rfl hpath
    rcases locate_cases locator.rootFolder locator.disk locator.located asked hint with
      ⟨hempty, hcall⟩ | ⟨habsolute, hcall⟩ | ⟨-, found, hpath, hcall⟩ |
      ⟨-, hnone, found, -, hcall⟩ | ⟨-, -, -, hcall⟩
    · refine hsame (congrArg Prod.snd hcall) fun hasked => ?_
      exact absurd (hasked.symm.trans hempty) h.1
    · refine hsame (congrArg Prod.snd hcall) fun hasked => ?_
      exact absurd (hasked ▸ habsolute) (Bool.eq_false_iff.mp h.2)
    · refine hsame (congrArg Prod.snd hcall) fun hasked hgiven => ?_
      have hfound : found = path := Except.ok.inj ((congrArg Prod.fst hcall).symm.trans hgiven)
      rw [← hasked, hpath, hfound]
    · have hlocated : (locator.locate asked hint).2 = locator.located ++ [(asked, found)] :=
        congrArg Prod.snd hcall
      have hgiven : (locator.locate asked hint).1 = .ok found := congrArg Prod.fst hcall
      rw [next, hlocated, Located.path?_append hnone]
      by_cases hasked : name = asked
      · subst hasked
        rw [if_pos rfl, hnone]
        simp [hgiven, eq_comm]
      · simp [hasked, Ne.symm hasked]
    · refine hsame (congrArg Prod.snd hcall) fun _ hgiven => ?_
      exact absurd ((congrArg Prod.fst hcall).symm.trans hgiven) nofun

/-- **Remembered for a name is what a call of the history gave.** -/
theorem path?_after (hstart : start.located = []) (h : Relative name) (history : List Moment) :
    (start.after history).located.path? name = some path ↔ start.Gave history name path := by
  induction history using List.reverseRecOn with
  | nil =>
    refine iff_of_false ?_ ?_
    · rw [after, List.foldl_nil, hstart]
      exact nofun
    · rintro ⟨before, hint, later, hhistory, -⟩
      simp at hhistory
  | append_singleton history moment ih =>
    rw [after_concat, path?_next h, gave_concat, ih]

/-- **A call after a history.** A name that the history gave a path for keeps it. -/
theorem locate_of_gave (hstart : start.located = []) (h : Relative name)
    (hgave : start.Gave history name path) (hint : String) :
    (start.after history).locate name hint = (.ok path, (start.after history).located) := by
  have hpath := (path?_after hstart h history).mpr hgave
  rw [locate, Folio.locate, if_neg h.1, if_neg (Bool.eq_false_iff.mp h.2), hpath]

/-- A name without a path so far is searched for. -/
theorem locate_of_not_gave (hstart : start.located = []) (h : Relative name)
    (hgave : ∀ path, ¬ start.Gave history name path) (hint : String) :
    let now := start.after history
    let root := start.rootFolder.getD hint
    (∃ path, now.disk.IsFirst root name path ∧
      now.locate name hint = (.ok path, now.located ++ [(name, path)])) ∨
    (now.disk.Lacks root name ∧
      now.locate name hint = (.error (.templateNotFound name root), now.located)) := by
  dsimp only
  have hnone : (start.after history).located.path? name = none := by
    cases hpath : (start.after history).located.path? name with
    | none => rfl
    | some path => exact absurd ((path?_after hstart h history).mp hpath) (hgave path)
  have hcases := locate_cases (start.after history).rootFolder (start.after history).disk
    (start.after history).located name hint
  rw [rootFolder_after] at hcases
  rcases hcases with ⟨hempty, -⟩ | ⟨habsolute, -⟩ | ⟨-, path, hpath, -⟩ |
    ⟨-, -, path, hfirst, hcall⟩ | ⟨-, -, hlacks, hcall⟩
  · exact absurd hempty h.1
  · exact absurd habsolute (Bool.eq_false_iff.mp h.2)
  · simp [hnone] at hpath
  · rw [← rootFolder_after start history] at hcall
    exact .inl ⟨path, hfirst, hcall⟩
  · refine .inr ⟨hlacks, ?_⟩
    rw [locate, rootFolder_after]
    exact hcall

/-! ## How much is remembered -/

/-- Each name is remembered once, and only names that are searched for. -/
structure Tidy (located : Located) : Prop where
  nodup : (located.map Prod.fst).Nodup
  relative : ∀ name ∈ located.map Prod.fst, Relative name

theorem mem_map_fst_iff {located : Located} :
    name ∈ located.map Prod.fst ↔ ∃ path, located.path? name = some path := by
  rw [← Option.isSome_iff_exists, Located.path?, Option.isSome_map, List.find?_isSome]
  simp

/-- **A moment keeps what is remembered tidy.** -/
theorem Tidy.next {locator : Locator} (h : Tidy locator.located) (moment : Moment) :
    Tidy (locator.next moment).located := by
  cases moment with
  | changes disk => exact h
  | locates name hint =>
    have hsame (hlocated : (locator.locate name hint).2 = locator.located) :
        Tidy (locator.locate name hint).2 := by
      rw [hlocated]
      exact h
    rcases locate_cases locator.rootFolder locator.disk locator.located name hint with
      ⟨-, hcall⟩ | ⟨-, hcall⟩ | ⟨-, path, -, hcall⟩ | ⟨hrelative, hnone, path, -, hcall⟩ |
      ⟨-, -, -, hcall⟩
    · exact hsame (congrArg Prod.snd hcall)
    · exact hsame (congrArg Prod.snd hcall)
    · exact hsame (congrArg Prod.snd hcall)
    · have hlocated : (locator.next (.locates name hint)).located =
          locator.located ++ [(name, path)] := congrArg Prod.snd hcall
      have hnew : name ∉ locator.located.map Prod.fst := by
        rw [mem_map_fst_iff]
        simp [hnone]
      rw [hlocated]
      constructor
      · rw [List.map_append, List.nodup_append']
        exact ⟨h.nodup, List.nodup_singleton name, by simpa using hnew⟩
      · rw [List.map_append]
        exact List.forall_mem_append.mpr
          ⟨h.relative, List.forall_mem_singleton.mpr hrelative⟩
    · exact hsame (congrArg Prod.snd hcall)

theorem tidy_after (hstart : start.located = []) (history : List Moment) :
    Tidy (start.after history).located := by
  induction history using List.reverseRecOn with
  | nil =>
    rw [after, List.foldl_nil, hstart]
    exact ⟨List.nodup_nil, List.forall_mem_nil _⟩
  | append_singleton history moment ih =>
    rw [after_concat]
    exact ih.next moment

/-- **As many paths are remembered as names were given one.** -/
theorem length_after (hstart : start.located = []) (history : List Moment) :
    (start.after history).located.length =
      {name | Relative name ∧ ∃ path, start.Gave history name path}.ncard := by
  have htidy := tidy_after hstart history
  have hnames : {name | Relative name ∧ ∃ path, start.Gave history name path} =
      (((start.after history).located.map Prod.fst).toFinset : Set String) := by
    ext name
    rw [Set.mem_ofPred_eq, List.coe_toFinset, Set.mem_ofPred_eq, mem_map_fst_iff]
    constructor
    · rintro ⟨h, path, hgave⟩
      exact ⟨path, (path?_after hstart h history).mpr hgave⟩
    · rintro ⟨path, hpath⟩
      have h := htidy.relative name (mem_map_fst_iff.mpr ⟨path, hpath⟩)
      exact ⟨h, path, (path?_after hstart h history).mp hpath⟩
  rw [hnames, Set.ncard_coe_finset, List.toFinset_card_of_nodup htidy.nodup, List.length_map]

/-! ## Where paths come from -/

/-- **A path comes from the first call that gave one for the name.** -/
theorem Gave.origin (hstart : start.located = []) (h : Relative name)
    (hgave : start.Gave history name path) :
    ∃ before hint later, history = before ++ .locates name hint :: later ∧
      (∀ other, ¬ start.Gave before name other) ∧
      (start.after before).disk.IsFirst (start.rootFolder.getD hint) name path := by
  induction history using List.reverseRecOn with
  | nil =>
    obtain ⟨before, hint, later, hhistory, -⟩ := hgave
    simp at hhistory
  | append_singleton history moment ih =>
    by_cases hbefore : ∃ other, start.Gave history name other
    · -- What was given before is given again.
      obtain ⟨other, hother⟩ := hbefore
      have hsame : start.Gave history name path := by
        rcases gave_concat.mp hgave with hgave | ⟨hint, -, hpath⟩
        · exact hgave
        · rw [locate_of_gave hstart h hother hint] at hpath
          exact Except.ok.inj hpath ▸ hother
      obtain ⟨before, hint, later, rfl, hfirst⟩ := ih hsame
      exact ⟨before, hint, later ++ [moment], by simp, hfirst⟩
    · rcases gave_concat.mp hgave with hgave | ⟨hint, rfl, hpath⟩
      · exact absurd ⟨path, hgave⟩ hbefore
      · rw [not_exists] at hbefore
        refine ⟨history, hint, [], rfl, hbefore, ?_⟩
        rcases locate_of_not_gave hstart h hbefore hint with
          ⟨found, hfirst, hcall⟩ | ⟨-, hcall⟩
        · rw [hcall] at hpath
          exact Except.ok.inj hpath ▸ hfirst
        · simp [hcall] at hpath

/-- The files change by what is put on the disk and removed from it. -/
def Changing (start : Locator) (history : List Moment) : Prop :=
  ∀ before disk later, history = before ++ .changes disk :: later →
    Relation.ReflTransGen Disk.Changed (start.after before).disk disk

theorem named_after (hnamed : start.disk.Named) (hchanging : start.Changing history) :
    (start.after history).disk.Named := by
  induction history using List.reverseRecOn with
  | nil => exact hnamed
  | append_singleton history moment ih =>
    have hbefore : (start.after history).disk.Named :=
      ih fun before disk later hhistory =>
        hchanging before disk (later ++ [moment]) (by simp [hhistory])
    have hchanged {disk : Disk}
        (hdisk : Relation.ReflTransGen Disk.Changed (start.after history).disk disk) :
        disk.Named := by
      induction hdisk with
      | refl => exact hbefore
      | tail _ hlast ih => exact hlast.named ih
    rw [after_concat]
    cases moment with
    | locates name hint => exact hbefore
    | changes disk => exact hchanged (hchanging history disk [] rfl)

/-- **A path that was given lies under a root that was searched**, where no name had a slash at the
beginning. -/
theorem Gave.under (hstart : start.located = []) (hnamed : start.disk.Named)
    (hchanging : start.Changing history) (h : Relative name)
    (hgave : start.Gave history name path) :
    ∃ before hint later, history = before ++ .locates name hint :: later ∧
      components (start.rootFolder.getD hint) <+: components path := by
  obtain ⟨before, hint, later, rfl, -, hfirst⟩ := hgave.origin hstart h
  have hbefore : start.Changing before := fun first disk rest hrest =>
    hchanging first disk (rest ++ .locates name hint :: later) (by simp [hrest])
  exact ⟨before, hint, later, rfl, hfirst.under (named_after hnamed hbefore)⟩

/-- **What a call does after any history.** The files may have changed and names may have been
located in any order, always with one root folder or with none. The root is the root folder, or else
what the call hints at.

* An empty name is not found, and an absolute one is its own path.
* A relative name that was not located so far is searched for. Its path is that of the first file
  whose path ends with it. If there is none, the name is not found and nothing is remembered.
* A name that was located keeps its path.
* So each path is that of the first file at the moment when its name was located first, and under
  the root of that moment.
* As many paths are remembered as relative names were located. -/
theorem locate_after (rootFolder : Option String) (disk : Disk) (history : List Moment)
    (name hint : String) :
    let start : Locator := { rootFolder, disk }
    let now := start.after history
    let root := rootFolder.getD hint
    (name = "" →
      now.locate name hint = (.error (.templateNotFound "" root), now.located)) ∧
    (isAbsolute name → now.locate name hint = (.ok name, now.located)) ∧
    (Relative name → (∀ path, ¬ start.Gave history name path) →
      (∀ path, now.locate name hint = (.ok path, now.located ++ [(name, path)]) ↔
        now.disk.IsFirst root name path) ∧
      (now.locate name hint = (.error (.templateNotFound name root), now.located) ↔
        now.disk.Lacks root name) ∧
      (now.disk.Lacks root name ∨ ∃ path, now.disk.IsFirst root name path)) ∧
    (Relative name → ∀ path, start.Gave history name path →
      now.locate name hint = (.ok path, now.located)) ∧
    (Relative name → ∀ path, (now.locate name hint).1 = .ok path →
      ∃ before hint' later, history ++ [.locates name hint] =
          before ++ .locates name hint' :: later ∧
        (∀ other, ¬ start.Gave before name other) ∧
        (start.after before).disk.IsFirst (rootFolder.getD hint') name path ∧
        ((start.after before).disk.Named →
          components (rootFolder.getD hint') <+: components path)) ∧
    now.located.length = {name | Relative name ∧ ∃ path, start.Gave history name path}.ncard := by
  intro start now root
  refine ⟨?_, ?_, ?_, fun h path hgave => locate_of_gave rfl h hgave hint, ?_,
    length_after rfl history⟩
  · rintro rfl
    rw [locate, Folio.locate, if_pos rfl, rootFolder_after]
  · intro habsolute
    have hne : name ≠ "" := by
      rintro rfl
      simp [isAbsolute] at habsolute
    rw [locate, Folio.locate, if_neg hne, if_pos habsolute]
  · intro h hgave
    rcases locate_of_not_gave rfl h hgave hint with ⟨path, hfirst, hcall⟩ | ⟨hlacks, hcall⟩
    · refine ⟨fun other => ⟨fun hother => ?_, fun hother => ?_⟩,
        iff_of_false ?_ hfirst.not_lacks, .inr ⟨path, hfirst⟩⟩
      · rw [hcall] at hother
        obtain rfl := Except.ok.inj (congrArg Prod.fst hother)
        exact hfirst
      · obtain rfl := hfirst.unique hother
        exact hcall
      · rw [hcall]
        simp
    · refine ⟨fun other => iff_of_false ?_ fun hother => hother.not_lacks hlacks,
        iff_of_true hcall hlacks, .inl hlacks⟩
      rw [hcall]
      simp
  · intro h path hpath
    have hgave : start.Gave (history ++ [.locates name hint]) name path :=
      gave_concat.mpr (.inr ⟨hint, rfl, hpath⟩)
    obtain ⟨before, hint', later, hhistory, hnew, hfirst⟩ := hgave.origin rfl h
    exact ⟨before, hint', later, hhistory, hnew, hfirst, fun hnamed => hfirst.under hnamed⟩

-- The file is gone and the search would begin elsewhere, but the name was located before.
example :
    let disk : Disk := { entries := [(["t"], .folder), (["t", "a"], .file [])] }
    let start : Locator := { rootFolder := none, disk }
    ((start.after [.locates "a" "/t", .changes {}]).locate "a" "/u").1 = .ok "/t/a" ∧
      ((start.after [.changes {}]).locate "a" "/t").1 = .error (.templateNotFound "a" "/t") := by
  cbv

end Locator

end Folio
