import Folio.Proofs.Scanner.Batching
import Folio.Settings.Problems
import Folio.Registry.Basic

/-!
# The names that are delivered

A tag is delivered under the text between its delimiters, trimmed. So its name has no blank ends,
holds nothing that abandons a tag, and is not rooted. But it may be empty: whether there is anything
between the delimiters is asked before the text is trimmed, and not every blank character abandons
a tag.

* `unpadded_trimChars`, `trimChars_eq_nil_iff`: what trimming leaves.
* `ScanMode.tag_turn`: where a character closes a tag.
* `ScanOptions.Delivers`: the text that a name is delivered for; `Scanner.delivers_of_mem_said`.
* `scan_noting`: what a scan offers.
* **`delivered_names`**: the names that a scan offers, whatever the sink makes of them.
* **`delivered_names_blank`**: the empty name is among them, also under checked settings.
-/

namespace Folio

variable {ε σ : Type}

/-! ## What trimming leaves -/

/-- **What trimming leaves has no blank ends.** -/
theorem unpadded_trimChars (cs : List Char) : Unpadded (trimChars cs) := by
  have hne {cs : List Char} {c : Char} (hc : cs.head? = some c ∨ cs.getLast? = some c) :
      cs ≠ [] := by
    rintro rfl
    rcases hc with hc | hc <;> cases hc
  refine ⟨fun c hc => ?_, fun c hc => ?_⟩
  · -- It begins what is left where only the beginning is trimmed.
    obtain ⟨rest, hrest⟩ : trimChars cs <+: cs.dropWhile isBlank := List.rdropWhile_prefix _ _
    have hhead : (cs.dropWhile isBlank).head? = some c := by
      rw [← hrest, List.head?_append_of_ne_nil _ (hne (.inl hc)), hc]
    have hnot := List.head?_dropWhile_not isBlank cs
    rwa [hhead] at hnot
  · have hlast := List.rdropWhile_last_not isBlank (cs.dropWhile isBlank) (hne (.inr hc))
    rw [List.getLast?_eq_some_getLast (hne (.inr hc))] at hc
    rw [← Option.some.inj hc]
    exact Bool.eq_false_iff.mpr hlast

/-- **Nothing is left of blank characters only.** -/
theorem trimChars_eq_nil_iff {cs : List Char} :
    trimChars cs = [] ↔ ∀ c ∈ cs, isBlank c = true := by
  change List.rdropWhile isBlank (cs.dropWhile isBlank) = [] ↔ _
  rw [List.rdropWhile_eq_nil_iff]
  constructor
  · intro h c hc
    rw [← List.takeWhile_append_dropWhile (p := isBlank) (l := cs), List.mem_append] at hc
    exact hc.elim List.mem_takeWhile_imp (h c)
  · intro h c hc
    exact h c ((List.dropWhile_sublist _).subset hc)

theorem trim_ofList_eq_empty_iff {cs : List Char} :
    trim (String.ofList cs) = "" ↔ ∀ c ∈ cs, isBlank c = true := by
  rw [trim, String.toList_ofList, ← trimChars_eq_nil_iff, ← String.toList_eq_nil_iff,
    String.toList_ofList]

theorem trim_trim (text : String) : trim (trim text) = trim text :=
  trim_ofList_eq_iff.mpr (unpadded_trimChars text.toList)

/-! ## Where a tag is closed -/

/-- **Where a character closes a tag**: it is a delimiter that is looked at, there is text between
the delimiters, and the name of the tag is not rooted. -/
theorem ScanMode.tag_turn {options : ScanOptions} {mode : ScanMode} {c : Char} {name : String}
    (h : (mode.turn options c).tag = some name) :
    (options.stripLineBreaks && isLineBreak c) = false ∧ c = options.delimiter ∧
      ∃ raw, mode = .tag raw ∧ raw ≠ "" ∧ name = trim raw ∧ options.rootedPath? name = none := by
  unfold turn at h
  by_cases hdrop : (options.stripLineBreaks && isLineBreak c) = true
  · rw [if_pos hdrop] at h
    cases h
  rw [if_neg hdrop] at h
  refine ⟨Bool.eq_false_iff.mpr hdrop, ?_⟩
  by_cases hd : c = options.delimiter
  · cases mode with
    | literal => simp [hd] at h
    | tag raw =>
      by_cases hne : raw = ""
      · simp [hd, hne] at h
      · cases hrooted : options.rootedPath? (trim raw) with
        | some path => simp [hd, hne, hrooted] at h
        | none =>
          obtain rfl : trim raw = name := by simpa [hd, hne, hrooted] using h
          exact ⟨hd, raw, rfl, hne, rfl, hrooted⟩
  · cases mode with
    | literal => simp [hd] at h
    | tag raw =>
      dsimp only at h
      rw [if_neg hd] at h
      split at h <;> cases h

/-- **The text that a name is delivered for**: it stands between two delimiters, and nothing in it
abandons a tag. -/
structure ScanOptions.Delivers (options : ScanOptions) (cs raw : List Char) (name : String) :
    Prop where
  between : options.delimiter :: (raw ++ [options.delimiter]) <:+: options.visible cs
  inTag : options.InTag raw
  nonempty : raw ≠ []
  trimmed : name = trim (String.ofList raw)
  unrooted : ∀ path, name ≠ options.rootedPrefix ++ path

/-- **A name that is said is delivered for some text.** -/
theorem Scanner.delivers_of_mem_said {options : ScanOptions} {cs : List Char} {name : String}
    (h : .tag name ∈ ({} : Scanner).said options cs) : ∃ raw, options.Delivers cs raw name := by
  obtain ⟨before, after, hsaid⟩ := List.append_of_mem h
  obtain ⟨read, c, rest, rfl, -, hmove⟩ := said_tag hsaid
  have hturn := (move_turn options (({} : Scanner).moves options read).2 c).2.2
  rw [hmove, tagNames_append, tagNames_literalRun] at hturn
  have htag : ((({} : Scanner).moves options read).2.mode.turn options c).tag = some name :=
    Option.toList_eq_singleton_iff.mp hturn.symm
  obtain ⟨hseen, rfl, raw, hmode, hne, hname, hrooted⟩ := ScanMode.tag_turn htag
  obtain ⟨earlier, run, kept, written, hread, hopened, -, -, -⟩ := buffered_moves options read
  refine ⟨raw.toList, ?_, hopened raw hmode, fun hnil => hne (String.toList_eq_nil_iff.mp hnil),
    by rwa [String.ofList_toList], ScanOptions.rootedPath?_eq_none.mp hrooted⟩
  have hdelimiter : options.visible [options.delimiter] = [options.delimiter] := by
    unfold ScanOptions.visible
    split <;> simp_all
  refine ⟨earlier ++ run, options.visible rest, ?_⟩
  rw [ScanOptions.visible_append, hread, hmode, ← List.singleton_append (l := rest),
    ScanOptions.visible_append, hdelimiter]
  simp [ScanMode.opened]

/-! ## What a scan offers -/

theorem Offered.mem {events : List Event} {log : OfferLog ε} {outcome last : Except ε Unit}
    {event : Event} (h : Offered events log last) (hmem : (event, outcome) ∈ log) :
    event ∈ events := by
  induction h with
  | done => cases hmem
  | taken hrest ih =>
    rcases List.mem_cons.mp hmem with heq | hmem
    · exact (Prod.mk.inj heq).1 ▸ List.mem_cons_self
    · exact List.mem_cons_of_mem _ (ih hmem)
  | rejected =>
    rw [List.mem_singleton] at hmem
    exact (Prod.mk.inj hmem).1 ▸ List.mem_cons_self

/-- **What a scan offers**: the events of its characters, in order, until one is rejected. -/
theorem scan_noting (options : ScanOptions) (offer : Offer ε σ) (chars : List (Except ε Char))
    (sink : σ) :
    ∃ log last, scan options (noting offer) chars (sink, []) =
        ((scan options offer chars sink).1, ((scan options offer chars sink).2, log)) ∧
      Offered (({} : Scanner).saidOf options chars) log last := by
  obtain ⟨log, hlog, hoffered⟩ :=
    offerAll_noting offer (({} : Scanner).saidOf options chars) sink []
  refine ⟨log, _, ?_, hoffered⟩
  rw [scan_eq_offerAll, scan_eq_offerAll, hlog, List.nil_append]
  rcases offerAll offer (({} : Scanner).saidOf options chars) sink with ⟨_ | _, _⟩ <;> rfl

/-- Any identifier can be registered but the empty one. -/
theorem Registry.toBool_register {α : Type} (registry : Registry α) (identifier : String)
    (descriptor : Descriptor α) :
    (registry.register identifier descriptor).toBool = true ↔ identifier ≠ "" := by
  unfold register
  split
  · next h => simp [h, Except.toBool]
  · next h =>
    refine iff_of_true ?_ h
    split
    · rfl
    · split <;> rfl

/-- What is said of characters that may fail is said of those before the first error. -/
theorem Scanner.saidOf_subset (options : ScanOptions) (s : Scanner)
    (chars : List (Except ε Char)) :
    s.saidOf options chars ⊆ s.said options (readable chars) := by
  unfold saidOf
  split
  · exact List.Subset.refl _
  · exact List.subset_append_left _ _

/-- **The names that are delivered.** Whatever the characters are, and whatever becomes of its
offers, a scan offers a tag only for text between two delimiters, under this text trimmed. So the
name has no blank ends, no delimiter and no character in it that abandons a tag, and it does not
begin with the rooted prefix. It is empty exactly if all of the text is blank: otherwise it is a
name that a component can be registered under. -/
theorem delivered_names (options : ScanOptions) (offer : Offer ε σ) (chars : List (Except ε Char))
    (sink : σ) :
    ∃ log, scan options (noting offer) chars (sink, []) =
        ((scan options offer chars sink).1, ((scan options offer chars sink).2, log)) ∧
      ∀ name outcome, (.tag name, outcome) ∈ log →
        ∃ raw, options.Delivers (readable chars) raw name ∧
          trim name = name ∧ options.InTag name.toList ∧
          (name = "" ↔ ∀ c ∈ raw, isBlank c = true) ∧
          ∀ (α : Type) (registry : Registry α) (descriptor : Descriptor α),
            (registry.register name descriptor).toBool = true ↔ ∃ c ∈ raw, isBlank c = false := by
  obtain ⟨log, last, hscan, hoffered⟩ := scan_noting options offer chars sink
  refine ⟨log, hscan, fun name outcome hmem => ?_⟩
  obtain ⟨raw, hraw⟩ :=
    Scanner.delivers_of_mem_said (Scanner.saidOf_subset options {} chars (hoffered.mem hmem))
  have hempty : name = "" ↔ ∀ c ∈ raw, isBlank c = true :=
    hraw.trimmed ▸ trim_ofList_eq_empty_iff
  refine ⟨raw, hraw, ?_, ?_, hempty, fun α registry descriptor => ?_⟩
  · rw [hraw.trimmed, trim_trim]
  · rw [hraw.trimmed, trim, String.toList_ofList, String.toList_ofList]
    exact fun c hc => hraw.inTag c ((trimChars_sublist raw).subset hc)
  · rw [Registry.toBool_register, ne_eq, hempty]
    simp

/-- **The empty name is delivered**, also under settings that pass the checks: a tabulator between
two delimiters is not nothing, it does not abandon the tag, and trimming leaves nothing of it. -/
theorem delivered_names_blank :
    let settings : SiteSettings := {}
    settings.problems = [] ∧
      scanText settings.textOptions taking "a@\t@b" [] =
        (.ok (), [.literal "a", .tag "", .literal "b"]) ∧
      ({ kind := "view" } : Registry Unit).register "" { id := 1, typeName := "View" } =
        .error (.emptyIdentifier "view") ∧
      ¬ ∀ settings : SiteSettings, settings.problems = [] →
        ∀ options, options = settings.textOptions ∨ options = settings.templateOptions →
          ∀ text name, .tag name ∈ eventsOf options text → options.Names name := by
  intro settings
  have hchecked : settings.problems = [] := by decide +kernel
  have hscan : scanText settings.textOptions taking "a@\t@b" [] =
      (.ok (), [.literal "a", .tag "", .literal "b"]) := by decide +kernel
  refine ⟨hchecked, hscan, rfl, fun hnames => ?_⟩
  have hevents : eventsOf settings.textOptions "a@\t@b" = [.literal "a", .tag "", .literal "b"] :=
    congrArg Prod.snd ((scanText_taking _ _).symm.trans hscan)
  have hname := hnames settings hchecked settings.textOptions (.inl rfl) "a@\t@b" ""
    (by simp [hevents])
  exact hname.nonempty rfl

end Folio
