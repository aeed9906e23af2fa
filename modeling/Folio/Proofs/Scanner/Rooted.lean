import Folio.Proofs.Scanner.Writing
import Mathlib.Data.List.DropRight

/-!
# Rooted tags

A template that is one tag alone says one thing: the path that the tag stands for, if its name
begins with the rooted prefix, and otherwise its name.

* `Unpadded`, `trim_ofList_eq_iff`: the texts that trimming leaves as they are.
* `getLast?_appRootAt`, `appRootAt_of_open`: application roots.
* `ScanOptions.visible_append`, `ScanOptions.visible_eq_self`: what is looked at of a text.
* **`eventsOf_rooted`**, `eventsOf_named`: the events of a lone tag.
* `Reads.broken`: how a tag is read that breaks.
-/

namespace Folio

/-! ## Blank ends -/

/-- **Texts without blank ends**: neither the first character nor the last one is blank. -/
structure Unpadded (cs : List Char) : Prop where
  first : ∀ c, cs.head? = some c → isBlank c = false
  last : ∀ c, cs.getLast? = some c → isBlank c = false

theorem trimChars_sublist_dropWhile (cs : List Char) :
    (trimChars cs).Sublist (cs.dropWhile isBlank) := by
  have houter := (List.dropWhile_sublist (l := (cs.dropWhile isBlank).reverse) isBlank).reverse
  rwa [List.reverse_reverse] at houter

theorem trimChars_sublist (cs : List Char) : (trimChars cs).Sublist cs :=
  (trimChars_sublist_dropWhile cs).trans (List.dropWhile_sublist _)

theorem dropWhile_isBlank_eq_self_iff {cs : List Char} :
    cs.dropWhile isBlank = cs ↔ ∀ c, cs.head? = some c → isBlank c = false := by
  rw [List.dropWhile_eq_self_iff]
  cases cs <;> simp

theorem trimChars_eq_self_iff {cs : List Char} : trimChars cs = cs ↔ Unpadded cs := by
  constructor
  · intro h
    -- A text that loses nothing at both ends loses nothing at either.
    have hfirst : cs.dropWhile isBlank = cs := by
      refine (List.dropWhile_sublist _).eq_of_length_le ?_
      have hlength := (trimChars_sublist_dropWhile cs).length_le
      rwa [h] at hlength
    have hlast : cs.reverse.dropWhile isBlank = cs.reverse := by
      rw [trimChars, hfirst] at h
      exact List.reverse_eq_iff.mp h
    refine ⟨dropWhile_isBlank_eq_self_iff.mp hfirst, fun c hc => ?_⟩
    rw [← List.head?_reverse] at hc
    exact dropWhile_isBlank_eq_self_iff.mp hlast c hc
  · intro h
    have hlast : cs.reverse.dropWhile isBlank = cs.reverse := by
      refine dropWhile_isBlank_eq_self_iff.mpr fun c hc => ?_
      rw [List.head?_reverse] at hc
      exact h.last c hc
    rw [trimChars, dropWhile_isBlank_eq_self_iff.mpr h.first, hlast, List.reverse_reverse]

/-- Trimming adds nothing, so a text that begins its own trimmed text is that text. -/
theorem unpadded_of_trimChars {cs rest : List Char} (h : trimChars cs = cs ++ rest) :
    Unpadded cs := by
  have hlength := (trimChars_sublist cs).length_le
  rw [h, List.length_append] at hlength
  have hrest : rest = [] := List.eq_nil_of_length_eq_zero (by omega)
  rw [hrest, List.append_nil] at h
  exact trimChars_eq_self_iff.mp h

theorem trimChars_of_trim {cs : List Char} {start rest : String}
    (h : trim (String.ofList cs) = start ++ rest) :
    trimChars cs = start.toList ++ rest.toList := by
  have hlist := congrArg String.toList h
  rwa [trim, String.toList_ofList, String.toList_ofList, String.toList_append] at hlist

/-- A text is trimmed to itself if its ends are not blank. -/
theorem trim_ofList_eq_iff {cs : List Char} :
    trim (String.ofList cs) = String.ofList cs ↔ Unpadded cs := by
  rw [trim, String.toList_ofList, String.ofList_inj, trimChars_eq_self_iff]

/-! ## Application roots -/

theorem getLast?_appRootAt (virtualPath : String) :
    (appRootAt virtualPath).toList.getLast? = some '/' := by
  unfold appRootAt
  dsimp only
  generalize (if virtualPath.toList.head? = some '/' then virtualPath else _) = opened
  split
  · assumption
  · rw [String.toList_append]
    exact List.getLast?_concat

theorem appRootAt_ne_empty (virtualPath : String) : appRootAt virtualPath ≠ "" := by
  intro hempty
  have hlast := getLast?_appRootAt virtualPath
  rw [hempty] at hlast
  cases hlast

/-- The application root of a path that is open at its end. -/
theorem appRootAt_of_open {virtualPath : String} (hstart : virtualPath.toList.head? = some '/')
    (hopen : virtualPath.toList.getLast? ≠ some '/') :
    appRootAt virtualPath = virtualPath ++ "/" := by
  rw [appRootAt, if_pos hstart, if_neg hopen]

/-! ## What is looked at -/

section Visible

variable {options : ScanOptions}

theorem ScanOptions.visible_append (cs ds : List Char) :
    options.visible (cs ++ ds) = options.visible cs ++ options.visible ds := by
  unfold visible
  split
  · exact List.filter_append ..
  · rfl

/-- A text without line breaks is looked at as a whole. -/
theorem ScanOptions.visible_eq_self {cs : List Char} (h : ∀ c ∈ cs, isLineBreak c = false) :
    options.visible cs = cs := by
  unfold visible
  split
  · exact List.filter_eq_self.mpr fun c hc => by simp [h c hc]
  · rfl

theorem ScanOptions.visible_subset (options : ScanOptions) (cs : List Char) :
    options.visible cs ⊆ cs := by
  unfold visible
  split
  · exact List.filter_sublist.subset
  · exact List.Subset.refl _

theorem ScanOptions.inTag_empty (options : ScanOptions) : options.InTag "".toList := by
  simp [InTag]

theorem ScanOptions.InTag.isLineBreak {cs : List Char} (h : options.InTag cs) :
    ∀ c ∈ cs, isLineBreak c = false := by
  intro c hc
  obtain ⟨-, -, hr, hn⟩ := h c hc
  simp [Folio.isLineBreak, hr, hn]

theorem ScanOptions.InTag.append {cs ds : List Char} (hcs : options.InTag cs)
    (hds : options.InTag ds) : options.InTag (cs ++ ds) := fun c hc =>
  (List.mem_append.mp hc).elim (hcs c) (hds c)

end Visible

/-! ## Lone tags -/

instance (options : ScanOptions) (raw : List Char) : Decidable (options.InTag raw) :=
  List.decidableBAll
    (fun c => c ≠ options.delimiter ∧ c ≠ ' ' ∧ c ≠ '\r' ∧ c ≠ '\n') raw

section Lone

variable {options : ScanOptions} {text : String} {raw : List Char}
  (htext : options.visible text.toList = options.delimiter :: (raw ++ [options.delimiter]))
  (hraw : options.InTag raw) (hne : raw ≠ [])

include htext hraw hne

/-- **A rooted tag says the path that it stands for**, as literal text. -/
theorem eventsOf_rooted {rest : String}
    (hname : trim (String.ofList raw) = options.rootedPrefix ++ rest) :
    eventsOf options text = literalRun (options.appRoot ++ rest) := by
  have hsome : options.rootedPath? (trim (String.ofList raw)) = some (options.appRoot ++ rest) :=
    ScanOptions.rootedPath?_eq_some.mpr ⟨rest, hname, rfl⟩
  rw [eventsOf, Scanner.said_visible, htext, Scanner.said_opened options hraw, Scanner.said_cons,
    Scanner.move_close options "" (by simpa using hne), hsome]
  exact congrArg literalRun String.empty_append

/-- Any other tag says its name. -/
theorem eventsOf_named (hname : ∀ rest, trim (String.ofList raw) ≠ options.rootedPrefix ++ rest) :
    eventsOf options text = [.tag (trim (String.ofList raw))] := by
  rw [eventsOf, Scanner.said_visible, htext, Scanner.said_opened options hraw, Scanner.said_cons,
    Scanner.move_close options "" (by simpa using hne),
    ScanOptions.rootedPath?_eq_none.mpr hname]
  rfl

end Lone

/-! ## Broken tags -/

section Broken

variable {options : ScanOptions}

theorem Reads.plainRun {cs rest : List Char} {pieces : List Event} (hcs : options.delimiter ∉ cs)
    (hrest : Reads options rest pieces) :
    Reads options (cs ++ rest)
      (cs.map (fun c => .literal (String.singleton c)) ++ pieces) := by
  induction cs with
  | nil => exact hrest
  | cons c cs ih =>
    rw [List.mem_cons, not_or] at hcs
    exact .plain (Ne.symm hcs.1) (ih hcs.2)

/-- The pieces of a tag that breaks at `c` after the characters `raw`. -/
def brokenPieces (delimiter : Char) (raw : List Char) (c : Char) (rest : List Char) : List Event :=
  .literal (String.ofList (if 2 ≤ raw.length then delimiter :: raw else raw)) ::
    (c :: rest).map fun c => .literal (String.singleton c)

/-- **How a tag is read that breaks**: its text stands for itself, and what should close it opens a
tag that is never closed. -/
theorem Reads.broken {raw rest : List Char} {c : Char} (hraw : options.InTag raw)
    (hc : options.Breaks c) (hrest : options.delimiter ∉ rest) :
    Reads options (options.delimiter :: (raw ++ c :: (rest ++ [options.delimiter])))
      (brokenPieces options.delimiter raw c rest) := by
  have hopen : Reads options [options.delimiter] [] := .unclosed options.inTag_empty
  have hplain : options.delimiter ∉ c :: rest :=
    List.not_mem_cons_of_ne_of_not_mem hc.1.symm hrest
  have hrun := Reads.plainRun hplain hopen
  rw [List.append_nil] at hrun
  exact .abandoned hraw hc hrun

end Broken

end Folio
