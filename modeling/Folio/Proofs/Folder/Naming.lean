import Mathlib.Data.String.Basic
import Folio.Folder.Disk

/-!
# Names without slashes

Paths are taken apart at their slashes, so no part of a path has one. The names on a disk come from
paths, and so they have none either. A path to which such a name is joined goes on where the path
was.

* **`splitOn_slash`**: the parts of a text between slashes.
* `components_joinPath`: the components of a path are there in a longer one.
* `Plain`, **`Disk.Named`**: names without slashes, and a disk that has no others.
* `Disk.Named.put`, `Disk.Named.erase`, `Disk.Changed.named`: changes keep it so.
-/

namespace Folio

/-! ## Parts between slashes -/

section Splitting

open String

/-- The search for slashes in `before ++ part ++ rest`. It stands before `rest`, and `part` is what
it has seen since the last slash. -/
theorem splitOnAux_slash (before part rest : List Char) (found : List String) :
    splitOnAux (ofList (before ++ part ++ rest)) "/" ⟨utf8Len before⟩
        ⟨utf8Len before + utf8Len part⟩ 0 found =
      found.reverse ++ (List.splitOnPPrepend (· == '/') rest part.reverse).map ofList := by
  have hslash : Pos.Raw.get "/" 0 = '/' := rfl
  have hone : Pos.Raw.next "/" 0 = ⟨1⟩ := rfl
  have hdone : Pos.Raw.atEnd "/" ⟨1⟩ = true := rfl
  induction rest generalizing before part found with
  | nil =>
    rw [splitOnAux, if_pos (by simp [atEnd_iff, -ofList_append])]
    simpa using extract_of_valid before part []
  | cons c rest ih =>
    have hnext : Pos.Raw.next (ofList (before ++ part ++ c :: rest))
        ⟨utf8Len before + utf8Len part⟩ = ⟨utf8Len before + utf8Len part + c.utf8Size⟩ := by
      simpa [-ofList_append] using next_of_valid (before ++ part) c rest
    have hget : Pos.Raw.get (ofList (before ++ part ++ c :: rest))
        ⟨utf8Len before + utf8Len part⟩ = c := by
      simpa [-ofList_append] using get_of_valid (before ++ part) (c :: rest)
    have hmore : ¬ Pos.Raw.atEnd (ofList (before ++ part ++ c :: rest))
        ⟨utf8Len before + utf8Len part⟩ = true := by
      have hsize := c.utf8Size_pos
      simp [atEnd_iff, -ofList_append]
      omega
    rw [splitOnAux, if_neg hmore, hget, hslash, hnext, List.splitOnPPrepend_cons_eq_if]
    by_cases hc : c = '/'
    · subst hc
      have hrest := ih (before ++ part ++ ['/']) [] (ofList part :: found)
      have hpart := extract_of_valid before part ('/' :: rest)
      have hback : (⟨utf8Len before + (utf8Len part + '/'.utf8Size)⟩ : Pos.Raw).unoffsetBy ⟨1⟩ =
          ⟨utf8Len before + utf8Len part⟩ := rfl
      simp [-ofList_append] at hrest hpart
      simp [hone, hdone, hback, hpart, hrest, -ofList_append, Nat.add_assoc]
    · have hrest := ih before (part ++ [c]) found
      have hstay : (⟨utf8Len before + utf8Len part⟩ : Pos.Raw).unoffsetBy 0 =
          ⟨utf8Len before + utf8Len part⟩ := rfl
      rw [if_neg (by simpa using hc), if_neg (by simpa using hc), hstay, hnext]
      simp [-ofList_append] at hrest
      simp [hrest, -ofList_append, Nat.add_assoc]

/-- **The parts of a text between slashes.** -/
theorem splitOn_slash (text : String) :
    text.splitOn "/" = (text.toList.splitOn '/').map ofList := by
  have hsplit := splitOnAux_slash [] [] text.toList []
  rw [splitOn, if_neg (by decide)]
  simpa [List.splitOn_eq_splitOnP] using hsplit

theorem splitOn_append_slash (text more : String) :
    (text ++ "/" ++ more).splitOn "/" = text.splitOn "/" ++ more.splitOn "/" := by
  have hlist : (text ++ "/" ++ more).toList = text.toList ++ '/' :: more.toList := by simp
  rw [splitOn_slash, splitOn_slash, splitOn_slash, hlist, List.splitOn_append_cons_self,
    List.map_append]

theorem splitOn_slash_last (text : String) :
    (text ++ "/").splitOn "/" = text.splitOn "/" ++ [""] := by
  have hempty : "".splitOn "/" = [""] := by simp [splitOn_slash]
  simpa [hempty] using splitOn_append_slash text ""

/-- A text has a first part before its first slash. -/
theorem splitOn_eq_cons (text : String) : ∃ part parts, text.splitOn "/" = part :: parts :=
  List.exists_cons_of_ne_nil (by simp [splitOn_slash])

end Splitting

/-- Names without a slash. -/
def Plain (names : List String) : Prop :=
  ∀ name ∈ names, '/' ∉ name.toList

theorem plain_append {names more : List String} :
    Plain (names ++ more) ↔ Plain names ∧ Plain more := by
  simp only [Plain, List.forall_mem_append]

theorem Plain.subset {names more : List String} (h : Plain names) (hmore : more ⊆ names) :
    Plain more :=
  fun name hname => h name (hmore hname)

/-- What stands between slashes is without them. -/
theorem plain_splitOn (path : String) : Plain (path.splitOn "/") := by
  have hparts (text : List Char) : ∀ part ∈ text.splitOn '/', '/' ∉ part := by
    induction text with
    | nil => simp
    | cons c text ih =>
      rw [List.splitOn_cons_eq_if_modifyHead]
      by_cases hc : c = '/'
      · simpa [hc] using ih
      · rw [if_neg (by simpa using hc)]
        cases hrest : text.splitOn '/' with
        | nil => simp
        | cons part parts =>
          rw [hrest] at ih
          simpa [Ne.symm hc] using ih
  intro name hname
  rw [splitOn_slash, List.mem_map] at hname
  obtain ⟨part, hpart, rfl⟩ := hname
  simpa using hparts path.toList part hpart

/-! ## Components -/

/-- What a path begins with, before its names. -/
def pathStart (path : String) : List PathPart :=
  if isAbsolute path then [.root]
  else if (path.splitOn "/").head? = some "." then [.here] else []

/-- What stands between two slashes, as a component. -/
def pathPart? (part : String) : Option PathPart :=
  if part = "" || part = "." then none
  else if part = ".." then some .up
  else some (.name part)

theorem components_eq (path : String) :
    components path = pathStart path ++ (path.splitOn "/").filterMap pathPart? := rfl

theorem isAbsolute_append {path : String} (h : path ≠ "") (more : String) :
    isAbsolute (path ++ more) = isAbsolute path := by
  rw [isAbsolute, isAbsolute, String.toList_append]
  cases hlist : path.toList with
  | nil => exact absurd (String.toList_eq_nil_iff.mp hlist) h
  | cons c rest => rfl

/-- A slash at the end changes nothing. -/
theorem components_slash {folder : String} (h : folder ≠ "") :
    components (folder ++ "/") = components folder := by
  obtain ⟨part, parts, hparts⟩ := splitOn_eq_cons folder
  have hstart : pathStart (folder ++ "/") = pathStart folder := by
    rw [pathStart, pathStart, isAbsolute_append h, splitOn_slash_last, hparts]
    rfl
  rw [components_eq, components_eq, hstart, splitOn_slash_last, List.filterMap_append]
  simp [pathPart?]

/-- What follows a slash comes after all components before it. -/
theorem components_append_slash (folder more : String) :
    components (folder ++ "/") <+: components (folder ++ "/" ++ more) := by
  obtain ⟨part, parts, hparts⟩ := splitOn_eq_cons folder
  have hstart : pathStart (folder ++ "/" ++ more) = pathStart (folder ++ "/") := by
    rw [pathStart, pathStart, isAbsolute_append (by simp), splitOn_append_slash,
      splitOn_slash_last, hparts]
    rfl
  rw [components_eq, components_eq, hstart, splitOn_append_slash, splitOn_slash_last,
    List.prefix_append_right_inj, List.filterMap_append, List.filterMap_append]
  simp [pathPart?]

/-- **A name that is joined to a path comes after all its components.** -/
theorem components_joinPath {folder name : String} (hfolder : folder ≠ "")
    (hname : '/' ∉ name.toList) : components folder <+: components (joinPath folder name) := by
  have hrelative : isAbsolute name = false := by
    rw [isAbsolute]
    cases hlist : name.toList with
    | nil => rfl
    | cons c rest =>
      have hne : c ≠ '/' := fun hc => hname (by simp [hlist, hc])
      simpa using hne
  rw [joinPath, hrelative, if_neg (by simpa using hfolder)]
  by_cases hslash : folder.toList.getLast? = some '/'
  · obtain ⟨rest, hrest⟩ := List.getLast?_eq_some_iff.mp hslash
    have hfolder' : folder = String.ofList rest ++ "/" := by
      apply String.toList_injective
      simpa using hrest
    rw [if_pos hslash, hfolder']
    exact components_append_slash _ name
  · rw [if_neg hslash, ← components_slash hfolder]
    exact components_append_slash folder name

theorem joinPath_ne_empty {folder : String} (h : folder ≠ "") (name : String) :
    joinPath folder name ≠ "" := by
  rw [joinPath]
  by_cases habsolute : isAbsolute name
  · rw [habsolute]
    rintro rfl
    simp [isAbsolute] at habsolute
  · rw [if_neg (by simp [habsolute, h])]
    by_cases hslash : folder.toList.getLast? = some '/' <;> simp [hslash, h]

/-- **The components of a root are those that its paths begin with.** -/
theorem components_foldl_joinPath {root : String} (hroot : root ≠ "") {names : List String}
    (hnames : Plain names) : components root <+: components (names.foldl joinPath root) := by
  induction names generalizing root with
  | nil => exact List.prefix_rfl
  | cons name names ih =>
    obtain ⟨hname, hrest⟩ := List.forall_mem_cons.mp hnames
    exact (components_joinPath hroot hname).trans (ih (joinPath_ne_empty hroot name) hrest)

/-! ## Disks -/

namespace Disk

/-- **No name on the disk has a slash.** -/
def Named (disk : Disk) : Prop :=
  ∀ entry ∈ disk.entries, Plain entry.1

/-- Where a path is seen from has no slashes: the root, or a folder without. -/
theorem plain_start {start : Place} (h : Plain start) (path : String) :
    Plain (if isAbsolute path then [] else start) := by
  by_cases habsolute : isAbsolute path
  · rw [if_pos habsolute]
    exact List.forall_mem_nil _
  · rw [if_neg habsolute]
    exact h

/-- Names without slashes lead to places without slashes, whatever links are taken. -/
theorem plain_follow {disk : Disk} {links : Nat} {start : Place} {names : List String}
    {place : Place} (h : disk.follow links start names = .ok place) (hstart : Plain start)
    (hnames : Plain names) : Plain place := by
  fun_induction follow disk links start names with
  | case1 =>
    obtain rfl := Except.ok.inj h
    exact hstart
  | case2 _ _ _ _ _ ih => exact ih h hstart (List.forall_mem_cons.mp hnames).2
  | case3 _ start _ _ ih =>
    exact ih h (hstart.subset (List.dropLast_subset start)) (List.forall_mem_cons.mp hnames).2
  | case4 => cases h
  | case5 => cases h
  | case6 _ _ name rest _ _ _ _ ih =>
    obtain ⟨hname, hrest⟩ := List.forall_mem_cons.mp hnames
    exact ih h (plain_append.mpr ⟨hstart, List.forall_mem_singleton.mpr hname⟩) hrest
  | case7 =>
    obtain rfl := Except.ok.inj h
    exact plain_append.mpr ⟨hstart, hnames⟩
  | case8 => cases h
  | case9 => cases h
  | case10 start name rest _ _ _ target _ links ih =>
    have hrest := (List.forall_mem_cons.mp hnames).2
    exact ih h (plain_start hstart target) (plain_append.mpr ⟨plain_splitOn target, hrest⟩)

/-- A disk keeps its names if a place without slashes is set. -/
theorem Named.set {disk : Disk} (h : disk.Named) {place : Place} (hplace : Plain place)
    (entry : Entry) : (disk.set place entry).Named := by
  intro found hfound
  rcases List.mem_append.mp hfound with hfound | hfound
  · exact h found (List.mem_filter.mp hfound).1
  · obtain rfl := List.mem_singleton.mp hfound
    exact hplace

/-- Folders that are made on the way keep the names, and lead to a place without slashes. -/
theorem Named.makeFolders {disk : Disk} (h : disk.Named) {start : Place} (hstart : Plain start)
    {names : List String} (hnames : Plain names) :
    (disk.makeFolders start names).1.Named ∧ Plain (disk.makeFolders start names).2 := by
  induction names generalizing disk start with
  | nil => exact ⟨h, hstart⟩
  | cons name rest ih =>
    obtain ⟨hname, hrest⟩ := List.forall_mem_cons.mp hnames
    have hsingle : Plain [name] := List.forall_mem_singleton.mpr hname
    rw [Disk.makeFolders]
    cases hfollow : disk.follow maxLinks start [name] with
    | ok place => exact ih h (plain_follow hfollow hstart hsingle) hrest
    | error e =>
      have hplace : Plain (start ++ [name]) := plain_append.mpr ⟨hstart, hsingle⟩
      exact ih (h.set hplace .folder) hplace hrest

theorem plain_landing? {disk : Disk} {folder place : Place} {name : String} {links : Nat}
    (h : disk.landing? folder name links = some place) (hfolder : Plain folder)
    (hname : '/' ∉ name.toList) : Plain place := by
  fun_induction landing? disk folder name links with
  | case7 folder name target _ links names next hnext hempty _ _ ih =>
    have hnames : Plain names := plain_splitOn target
    have hstart := plain_start hfolder target
    have hlast : names.getLastD "" ∈ names := by
      cases hlist : names with
      | nil => exact absurd (by rw [hlist]; rfl) hempty
      | cons first rest => simp [List.getLastD]
    exact ih h (plain_follow hnext hstart (hnames.subset (List.dropLast_subset names)))
      (hnames _ hlast)
  | case8 =>
    obtain rfl := Option.some.inj h
    exact plain_append.mpr ⟨hfolder, List.forall_mem_singleton.mpr hname⟩
  | case1 | case2 | case3 | case4 | case5 | case6 => cases h

/-- **A disk keeps its names** when an entry is put on it. -/
theorem Named.put {disk : Disk} (h : disk.Named) {start : Place} (hstart : Plain start)
    (path : String) (entry : Entry) : (disk.put start path entry).Named := by
  rw [Disk.put]
  have hnames : Plain ((path.splitOn "/").filter fun name => name ≠ "" && name ≠ ".") :=
    (plain_splitOn path).subset List.filter_sublist.subset
  generalize (path.splitOn "/").filter _ = names at hnames
  obtain ⟨hdisk, hparent⟩ := h.makeFolders (plain_start hstart path)
    (hnames.subset (List.dropLast_subset names))
  generalize disk.makeFolders _ names.dropLast = made at hdisk hparent
  obtain ⟨disk, parent⟩ := made
  dsimp only at hdisk hparent ⊢
  cases hlast : names.getLast? with
  | none => exact hdisk
  | some name =>
    have hname : '/' ∉ name.toList := hnames name (List.mem_of_getLast? hlast)
    have hplace : Plain (parent ++ [name]) :=
      plain_append.mpr ⟨hparent, List.forall_mem_singleton.mpr hname⟩
    cases entry with
    | file bytes =>
      dsimp only
      cases hlanding : disk.landing? parent name maxLinks with
      | none => exact hdisk
      | some place => exact hdisk.set (plain_landing? hlanding hparent hname) _
    | folder =>
      dsimp only
      split
      · exact hdisk
      · exact hdisk.set hplace _
    | link target => exact hdisk.set hplace _

/-- **A disk keeps its names** when an entry is removed. -/
theorem Named.erase {disk : Disk} (h : disk.Named) (start : Place) (path : String) :
    (disk.erase start path).Named := by
  rw [Disk.erase]
  split
  · exact fun entry hentry => h entry (List.mem_filter.mp hentry).1
  · exact h

/-- **A disk after one change**: an entry was put on it, or one was removed. -/
inductive Changed (disk : Disk) : Disk → Prop
  | put {start : Place} (hstart : Plain start) (path : String) (entry : Entry) :
    Changed disk (disk.put start path entry)
  | erase (start : Place) (path : String) : Changed disk (disk.erase start path)

theorem Changed.named {disk later : Disk} (h : disk.Changed later) (hdisk : disk.Named) :
    later.Named := by
  cases h with
  | put hstart path entry => exact hdisk.put hstart path entry
  | erase start path => exact hdisk.erase start path

end Disk

end Folio
