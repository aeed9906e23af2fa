import Folio.Proofs.Scanner.Rooted
import Folio.Settings.Problems

/-!
# Rooted tags under checked settings

The checks see to it that the rooted prefix is not empty and does not hold the delimiter, and that
the delimiter is not blank. Whether rooted tags work depends on more: a tag breaks at a blank in its
prefix, a line break may be dropped from it, and its name is trimmed.

* `ScannerSettings.Rootable`: prefixes that are read as they stand.
* `SiteSettings.RootsTags`: a rooted tag says its path and nothing else, in texts and in templates.
* **`SiteSettings.rootsTags_iff`**: under checked settings, rooted tags work wherever the site is
  mounted if and only if the prefix is read as it stands.
* **`SiteSettings.rootsTags_padded`**: the checks do not see to that.
-/

namespace Folio

/-- **Prefixes that are read as they stand**: nothing in them breaks a tag or is dropped, and
neither end is trimmed. -/
structure ScannerSettings.Rootable (scanner : ScannerSettings) : Prop where
  unbroken : ∀ c ∈ scanner.rootedPrefix.toList, c ≠ ' ' ∧ c ≠ '\r' ∧ c ≠ '\n'
  unpadded : Unpadded scanner.rootedPrefix.toList

/-- The tag of a path below the application root. -/
def ScannerSettings.rootedTag (scanner : ScannerSettings) (rest : String) : String :=
  String.singleton scanner.delimiter ++ scanner.rootedPrefix ++ rest ++
    String.singleton scanner.delimiter

/-- **Rooted tags work**: whatever follows the prefix, a rooted tag says the path that it stands
for, and nothing else. -/
def SiteSettings.RootsTags (settings : SiteSettings) : Prop :=
  ∀ options, options = settings.textOptions ∨ options = settings.templateOptions →
    ∀ rest : String, options.InTag rest.toList →
      (∀ c, rest.toList.getLast? = some c → isBlank c = false) →
      scanText options taking (settings.scanner.rootedTag rest) [] =
        (.ok (), [.literal (appRootAt settings.app.virtualPath ++ rest)])

/-- The same site under another virtual path. -/
def SiteSettings.mountedAt (settings : SiteSettings) (virtualPath : String) : SiteSettings :=
  { settings with app := { virtualPath := virtualPath } }

/-! ## What the checks see to -/

/-- Scanner settings that pass the checks. -/
structure ScannerSettings.Checked (scanner : ScannerSettings) : Prop where
  delimiter : isBlank scanner.delimiter = false
  nonempty : scanner.rootedPrefix ≠ ""
  undelimited : scanner.delimiter ∉ scanner.rootedPrefix.toList

theorem SiteSettings.checked_of_problems {settings : SiteSettings} (h : settings.problems = []) :
    settings.scanner.Checked := by
  simp only [problems, ScannerSettings.problems, List.append_eq_nil_iff] at h
  obtain ⟨⟨⟨⟨⟨hdelimiter, hrooted⟩, -⟩, -⟩, -⟩, -⟩ := h
  refine ⟨by simpa using hdelimiter, fun hempty => ?_, fun hmem => ?_⟩
  · simp [hempty] at hrooted
  · split at hrooted
    · cases hrooted
    · simp [hmem] at hrooted

/-! ## What is looked at -/

/-- What is looked at of a rooted tag. -/
theorem ScannerSettings.visible_rootedTag {scanner : ScannerSettings} (hchecked : scanner.Checked)
    {options : ScanOptions} (hoptions : options.delimiter = scanner.delimiter) {rest : String}
    (hrest : options.InTag rest.toList) :
    options.visible (scanner.rootedTag rest).toList = options.delimiter ::
      (options.visible scanner.rootedPrefix.toList ++ rest.toList ++ [options.delimiter]) := by
  have hdelimiter : options.visible [options.delimiter] = [options.delimiter] := by
    refine ScanOptions.visible_eq_self fun c hc => ?_
    rw [List.mem_singleton.mp hc, hoptions]
    have hblank := hchecked.delimiter
    simp only [isLineBreak, Bool.or_eq_false_iff, beq_eq_false_iff_ne]
    constructor <;> intro h <;> rw [h] at hblank <;> cases hblank
  rw [rootedTag, ← hoptions, String.toList_append, String.toList_append, String.toList_append,
    String.toList_singleton, ScanOptions.visible_append, ScanOptions.visible_append,
    ScanOptions.visible_append, hdelimiter, ScanOptions.visible_eq_self hrest.isLineBreak,
    List.singleton_append, List.cons_append, List.cons_append]

/-- What is looked at of the tag of the application root. -/
theorem ScannerSettings.visible_rootedTag_empty {scanner : ScannerSettings}
    (hchecked : scanner.Checked) (options : ScanOptions)
    (hoptions : options.delimiter = scanner.delimiter) :
    options.visible (scanner.rootedTag "").toList = options.delimiter ::
      (options.visible scanner.rootedPrefix.toList ++ [options.delimiter]) := by
  have hvisible := scanner.visible_rootedTag hchecked hoptions options.inTag_empty
  rwa [String.toList_empty, List.append_nil] at hvisible

/-! ## Prefixes that are read as they stand -/

/-- A rooted tag with such a prefix says its path. -/
theorem ScannerSettings.Rootable.eventsOf {scanner : ScannerSettings} (hroot : scanner.Rootable)
    (hchecked : scanner.Checked) {options : ScanOptions}
    (hdelimiter : options.delimiter = scanner.delimiter)
    (hrooted : options.rootedPrefix = scanner.rootedPrefix) {rest : String}
    (hrest : options.InTag rest.toList)
    (hlast : ∀ c, rest.toList.getLast? = some c → isBlank c = false) :
    eventsOf options (scanner.rootedTag rest) = literalRun (options.appRoot ++ rest) := by
  have hne : scanner.rootedPrefix.toList ≠ [] :=
    fun h => hchecked.nonempty (String.toList_eq_nil_iff.mp h)
  have hin : options.InTag scanner.rootedPrefix.toList := fun c hc =>
    ⟨fun h => hchecked.undelimited (hdelimiter ▸ h ▸ hc), hroot.unbroken c hc⟩
  have hvisible := scanner.visible_rootedTag hchecked hdelimiter hrest
  rw [ScanOptions.visible_eq_self hin.isLineBreak] at hvisible
  refine eventsOf_rooted hvisible (hin.append hrest) (by simp [hne]) ?_
  have hunpadded : Unpadded (scanner.rootedPrefix.toList ++ rest.toList) := by
    refine ⟨fun c hc => ?_, fun c hc => ?_⟩
    · rw [List.head?_append_of_ne_nil _ hne] at hc
      exact hroot.unpadded.first c hc
    · rw [List.getLast?_append, Option.or_eq_some_iff] at hc
      rcases hc with hc | ⟨-, hc⟩
      · exact hlast c hc
      · exact hroot.unpadded.last c hc
  rw [trim_ofList_eq_iff.mpr hunpadded, hrooted, String.ofList_append, String.ofList_toList,
    String.ofList_toList]

/-! ## What working tags need -/

theorem SiteSettings.RootsTags.eventsOf {settings : SiteSettings} (h : settings.RootsTags)
    {rest : String} (hrest : settings.textOptions.InTag rest.toList)
    (hlast : ∀ c, rest.toList.getLast? = some c → isBlank c = false) :
    eventsOf settings.textOptions (settings.scanner.rootedTag rest) =
      [.literal (appRootAt settings.app.virtualPath ++ rest)] := by
  have hscan := h _ (.inl rfl) rest hrest hlast
  rw [scanText_taking] at hscan
  exact congrArg Prod.snd hscan

section Needed

variable {settings : SiteSettings} (hchecked : settings.scanner.Checked)
  (hroots : ∀ virtualPath, virtualPath.toList.head? = some '/' →
    (settings.mountedAt virtualPath).RootsTags)

include hchecked hroots

/-- What is looked at of the prefix may stand in a tag: a tag that breaks in its prefix says the
same wherever the site is mounted. -/
theorem inTag_visible_of_rootsTags :
    settings.textOptions.InTag
      (settings.textOptions.visible settings.scanner.rootedPrefix.toList) := by
  obtain ⟨raw, hraw, hall | ⟨c, more, hsplit, hc⟩⟩ := exists_run settings.textOptions
    (settings.textOptions.visible settings.scanner.rootedPrefix.toList)
  · rwa [hall]
  have hmem {d : Char} (hd : d ∈ c :: more) : d ∈ settings.scanner.rootedPrefix.toList := by
    refine settings.textOptions.visible_subset _ ?_
    rw [hsplit]
    exact List.mem_append_right raw hd
  rcases hc with hdelimiter | hbreaks
  · exact absurd (hmem (hdelimiter ▸ List.mem_cons_self)) hchecked.undelimited
  have hsame (virtualPath : String) (hpath : virtualPath.toList.head? = some '/') :
      joined [.literal (appRootAt virtualPath ++ "")] =
        joined (brokenPieces settings.scanner.delimiter raw c more) := by
    have hevents := (hroots virtualPath hpath).eventsOf (ScanOptions.inTag_empty _) (by simp)
    have hvisible := settings.scanner.visible_rootedTag_empty hchecked
      (settings.mountedAt virtualPath).textOptions rfl
    have hbroken : Reads (settings.mountedAt virtualPath).textOptions _ _ :=
      Reads.broken hraw hbreaks fun hd => hchecked.undelimited (hmem (List.mem_cons_of_mem c hd))
    have htext : (settings.mountedAt virtualPath).textOptions.visible
        settings.scanner.rootedPrefix.toList = raw ++ c :: more := hsplit
    rw [htext, List.append_assoc, List.cons_append] at hvisible
    exact (congrArg joined hevents).symm.trans (joined_eventsOf_visible (hvisible ▸ hbroken))
  -- But the paths that it should say are not the same.
  have hroot := (hsame "/" rfl).trans (hsame "/a" rfl).symm
  exact absurd hroot (by decide +kernel)

/-- The prefix has no line breaks: where they are dropped, no name can hold one. -/
theorem isLineBreak_of_rootsTags :
    ∀ c ∈ settings.scanner.rootedPrefix.toList, isLineBreak c = false := by
  intro c hc
  by_contra hbreak
  obtain ⟨x, hx, hletter⟩ : ∃ x, x ≠ settings.scanner.delimiter ∧ (x = 'x' ∨ x = 'y') := by
    by_cases h : settings.scanner.delimiter = 'x'
    · exact ⟨'y', by simp [h], .inr rfl⟩
    · exact ⟨'x', Ne.symm h, .inl rfl⟩
  have hrest : settings.textOptions.InTag (String.singleton x).toList := by
    rw [String.toList_singleton]
    intro d hd
    rw [List.mem_singleton.mp hd]
    exact ⟨hx, by rcases hletter with rfl | rfl <;> decide⟩
  have hlast : ∀ d, (String.singleton x).toList.getLast? = some d → isBlank d = false := by
    intro d hd
    rw [String.toList_singleton, List.getLast?_singleton, Option.some.injEq] at hd
    rw [← hd]
    rcases hletter with rfl | rfl <;> rfl
  have hraw := (inTag_visible_of_rootsTags hchecked hroots).append hrest
  have hvisible : (settings.mountedAt "/").textOptions.visible _ = _ :=
    settings.scanner.visible_rootedTag hchecked rfl hrest
  have hnamed := eventsOf_named hvisible hraw (by simp) fun rest hname => by
    have hmem : c ∈ trimChars _ := trimChars_of_trim hname ▸ List.mem_append_left _ hc
    exact hbreak (hraw.isLineBreak c ((trimChars_sublist _).subset hmem))
  have hevents := (hroots "/" rfl).eventsOf hrest hlast
  cases hnamed.symm.trans hevents

/-- **Working tags need a prefix that is read as it stands.** -/
theorem rootable_of_rootsTags : settings.scanner.Rootable := by
  have hbreaks := isLineBreak_of_rootsTags hchecked hroots
  have hin := inTag_visible_of_rootsTags hchecked hroots
  rw [ScanOptions.visible_eq_self hbreaks] at hin
  refine ⟨fun c hc => (hin c hc).2, ?_⟩
  by_contra hpadded
  have hvisible := settings.scanner.visible_rootedTag_empty hchecked
    (settings.mountedAt "/").textOptions rfl
  rw [ScanOptions.visible_eq_self hbreaks] at hvisible
  have hnamed := eventsOf_named hvisible hin
    (fun h => hchecked.nonempty (String.toList_eq_nil_iff.mp h))
    fun rest hname => hpadded (unpadded_of_trimChars (trimChars_of_trim hname))
  have hevents := (hroots "/" rfl).eventsOf (ScanOptions.inTag_empty _) (by simp)
  cases hnamed.symm.trans hevents

end Needed

/-! ## The theorem -/

/-- **When rooted tags work.** Under settings that pass the checks, rooted tags say the paths that
they stand for, in texts and in templates and wherever the site is mounted, if and only if the
rooted prefix is read as it stands. -/
theorem SiteSettings.rootsTags_iff {settings : SiteSettings} (h : settings.problems = []) :
    (∀ virtualPath, virtualPath.toList.head? = some '/' →
      (settings.mountedAt virtualPath).RootsTags) ↔ settings.scanner.Rootable := by
  have hchecked := checked_of_problems h
  refine ⟨rootable_of_rootsTags hchecked,
    fun hroot virtualPath _ options hoptions rest hrest hlast => ?_⟩
  have hpath : appRootAt virtualPath ++ rest ≠ "" := fun hempty =>
    appRootAt_ne_empty virtualPath (String.append_eq_empty_iff.mp hempty).1
  have hrun : literalRun (appRootAt virtualPath ++ rest) =
      [.literal (appRootAt virtualPath ++ rest)] := by
    simp [literalRun, hpath]
  rw [scanText_taking]
  rcases hoptions with rfl | rfl <;>
    exact congrArg _ ((hroot.eventsOf hchecked rfl rfl hrest hlast).trans hrun)

/-- The settings as they are by default, mounted at `/blog`. -/
theorem SiteSettings.rootsTags_blog :
    ({} : SiteSettings).problems = [] ∧ (({} : SiteSettings).mountedAt "/blog").RootsTags := by
  have hproblems : ({} : SiteSettings).problems = [] := by decide +kernel
  have hunbroken : ∀ c ∈ "~/".toList, c ≠ ' ' ∧ c ≠ '\r' ∧ c ≠ '\n' := by simp
  have hunpadded : Unpadded "~/".toList := trimChars_eq_self_iff.mp (by decide +kernel)
  exact ⟨hproblems, (rootsTags_iff hproblems).mpr ⟨hunbroken, hunpadded⟩ "/blog" rfl⟩

/-- **The checks let prefixes pass that break the tag.** With the prefix `~ /`, the tag of `/x` is
copied as it stands, without its delimiters; with a tab in front of `~/`, it is taken for a name. -/
theorem SiteSettings.rootsTags_padded :
    let spaced : SiteSettings := { scanner := { rootedPrefix := "~ /" } }
    let tabbed : SiteSettings := { scanner := { rootedPrefix := "\t~/" } }
    (spaced.problems = [] ∧ ¬ spaced.RootsTags ∧
      scanText spaced.templateOptions taking "@~ /x@" [] = (.ok (), [.literal "~ /x"])) ∧
    tabbed.problems = [] ∧ ¬ tabbed.RootsTags ∧
      scanText tabbed.templateOptions taking "@\t~/x@" [] = (.ok (), [.tag "~/x"]) := by
  intro spaced tabbed
  have hlast : ∀ c, "x".toList.getLast? = some c → isBlank c = false := by
    intro c hc
    obtain rfl : 'x' = c := Option.some.inj hc
    rfl
  refine ⟨⟨by decide +kernel, fun h => ?_, by decide +kernel⟩, by decide +kernel, fun h => ?_,
    by decide +kernel⟩
  · have hscan := h spaced.templateOptions (.inr rfl) "x" (by decide +kernel) hlast
    exact absurd hscan (by decide +kernel)
  · have hscan := h tabbed.templateOptions (.inr rfl) "x" (by decide +kernel) hlast
    exact absurd hscan (by decide +kernel)

end Folio
