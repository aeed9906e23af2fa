import Folio.Proofs.Text.Utf8
import Folio.Proofs.Unicode.Folding
import Folio.Text.Casing
import Mathlib

/-!
# Casing of texts

Texts that are equal up to the case of the letters A to Z have one lower-case form, whatever stands
between these letters: the sigma takes its form by what is cased around it, and a letter is that in
both cases.

* `asciiEqual_iff`, `asciiEqual_symm`, `asciiEqual_split`, `asciiEqual_utf8ByteSize`, …: texts that
  are equal up to the case of the letters A to Z.
* `apply_toLower`: functions that look through that case.
* `lowercaseChar_toLower`, `lowercaseAfter_toLower`: the sigma among them.
* **`lowercase_eq_of_asciiEqual`**: texts that are equal up to that case have one lower-case form.
* **`mem_lowercase`**: what stands in a lower-case form.
-/

namespace Folio

open Unicode

/-! ## Equality up to the case of A to Z -/

section Equal

variable {a b c d : String}

theorem asciiEqual_iff :
    asciiEqual a b = true ↔ a.toList.map Char.toLower = b.toList.map Char.toLower := by
  rw [asciiEqual, beq_iff_eq]

theorem asciiEqual_self (text : String) : asciiEqual text text = true := by
  rw [asciiEqual, beq_self_eq_true]

theorem asciiEqual_symm (h : asciiEqual a b = true) : asciiEqual b a = true :=
  asciiEqual_iff.mpr (asciiEqual_iff.mp h).symm

theorem asciiEqual_trans (h : asciiEqual a b = true) (h' : asciiEqual b c = true) :
    asciiEqual a c = true :=
  asciiEqual_iff.mpr ((asciiEqual_iff.mp h).trans (asciiEqual_iff.mp h'))

theorem asciiEqual_append (h : asciiEqual a b = true) (h' : asciiEqual c d = true) :
    asciiEqual (a ++ c) (b ++ d) = true := by
  rw [asciiEqual_iff, String.toList_append, String.toList_append, List.map_append,
    List.map_append, asciiEqual_iff.mp h, asciiEqual_iff.mp h']

/-- A text that is equal to two in a row consists of two that are equal to them. -/
theorem asciiEqual_split (h : asciiEqual (a ++ b) c = true) :
    ∃ first last, c = first ++ last ∧ asciiEqual a first = true ∧ asciiEqual b last = true := by
  have hmap := (asciiEqual_iff.mp h).symm
  rw [String.toList_append, List.map_append] at hmap
  obtain ⟨first, last, hc, hfirst, hlast⟩ := List.map_eq_append_iff.mp hmap
  refine ⟨String.ofList first, String.ofList last, ?_, ?_, ?_⟩
  · rw [← String.ofList_append, ← hc, String.ofList_toList]
  · rw [asciiEqual_iff, String.toList_ofList, hfirst]
  · rw [asciiEqual_iff, String.toList_ofList, hlast]

end Equal

/-- The lower-case form of a letter from A to Z, and of any other character. -/
theorem toLower_cases (c : Char) :
    (∃ n < 26, c = Char.ofNat (n + 65) ∧ c.toLower = Char.ofNat (n + 97)) ∨ c.toLower = c := by
  have hletters : ∀ n < 26, (Char.ofNat (n + 65)).toLower = Char.ofNat (n + 97) := by decide
  by_cases hupper : c.isUpper = true
  · left
    have hrange : 65 ≤ c.toNat ∧ c.toNat ≤ 90 := by
      simpa [Char.isUpper, UInt32.le_iff_toNat_le] using hupper
    have hc : c = Char.ofNat (c.toNat - 65 + 65) := by
      rw [Nat.sub_add_cancel hrange.1, Char.ofNat_toNat]
    refine ⟨c.toNat - 65, by omega, hc, ?_⟩
    have hlower := hletters (c.toNat - 65) (by omega)
    rwa [← hc] at hlower
  · exact .inr (Char.toLower_eq_of_not_isUpper hupper)

/-- **A function that takes the letters A to Z as those in lower case** looks through their case. -/
theorem apply_toLower {α : Type} {f : Char → α}
    (h : ∀ n < 26, f (Char.ofNat (n + 97)) = f (Char.ofNat (n + 65))) (c : Char) :
    f c.toLower = f c := by
  rcases toLower_cases c with ⟨n, hn, hc, hlower⟩ | hsame
  · rw [hlower, hc]
    exact h n hn
  · rw [hsame]

theorem utf8Size_toLower (c : Char) : c.toLower.utf8Size = c.utf8Size :=
  apply_toLower (by decide) c

/-- Texts that are equal up to the case of the letters A to Z take as many bytes. -/
theorem asciiEqual_utf8ByteSize {a b : String} (h : asciiEqual a b = true) :
    a.utf8ByteSize = b.utf8ByteSize := by
  have hsize (text : String) :
      (String.ofList (text.toList.map Char.toLower)).utf8ByteSize = text.utf8ByteSize := by
    conv_rhs => rw [← String.ofList_toList (s := text)]
    induction text.toList with
    | nil => rfl
    | cons c cs ih =>
      rw [List.map_cons, Utf8.utf8ByteSize_ofList_cons, Utf8.utf8ByteSize_ofList_cons, ih,
        utf8Size_toLower]
  rw [← hsize a, ← hsize b, asciiEqual_iff.mp h]

/-! ## Lower-case forms -/

theorem lowerCase_toLower (c : Char) : lowerCase c.toLower = lowerCase c :=
  apply_toLower (by decide +kernel) c

theorem isCased_toLower (c : Char) : isCased c.toLower = isCased c :=
  apply_toLower (by decide +kernel) c

theorem isCaseIgnorable_toLower (c : Char) : isCaseIgnorable c.toLower = isCaseIgnorable c :=
  apply_toLower (by decide +kernel) c

theorem meetsCased_toLower (cs : List Char) : meetsCased (cs.map Char.toLower) = meetsCased cs := by
  have hignored : isCaseIgnorable ∘ Char.toLower = isCaseIgnorable :=
    funext isCaseIgnorable_toLower
  unfold meetsCased
  rw [List.dropWhile_map, hignored]
  cases cs.dropWhile isCaseIgnorable with
  | nil => rfl
  | cons c rest => exact isCased_toLower c

theorem lowercaseChar_toLower (before : List Char) (c : Char) (after : List Char) :
    lowercaseChar (before.map Char.toLower) c.toLower (after.map Char.toLower) =
      lowercaseChar before c after := by
  have hsigma : (c.toLower == 'Σ') = (c == 'Σ') := apply_toLower (f := (· == 'Σ')) (by decide) c
  have hdotted : (c.toLower == '\u0130') = (c == '\u0130') :=
    apply_toLower (f := (· == '\u0130')) (by decide) c
  rw [lowercaseChar, lowercaseChar, hsigma, hdotted, meetsCased_toLower, meetsCased_toLower,
    lowerCase_toLower]

theorem lowercaseAfter_toLower (before cs : List Char) :
    lowercaseAfter (before.map Char.toLower) (cs.map Char.toLower) =
      lowercaseAfter before cs := by
  induction cs generalizing before with
  | nil => rfl
  | cons c rest ih =>
    rw [List.map_cons, lowercaseAfter, lowercaseAfter, lowercaseChar_toLower, ← List.map_cons, ih]

/-- **Texts that are equal up to the case of the letters A to Z have one lower-case form.** -/
theorem lowercase_eq_of_asciiEqual {a b : String} (h : asciiEqual a b = true) :
    lowercase a = lowercase b := by
  have hlower (text : String) :
      lowercaseAfter [] (text.toList.map Char.toLower) = lowercaseAfter [] text.toList :=
    lowercaseAfter_toLower [] text.toList
  rw [lowercase, lowercase, ← hlower a, ← hlower b, asciiEqual_iff.mp h]

/-! ## What stands in a lower-case form -/

/-- No run of lower-case forms is empty, and it leads to letters from a to z or beyond ASCII. -/
theorem lowerRuns_targets : ∀ run ∈ lowerRuns, run.first ≤ run.last ∧ run.flip.Scalar ∧
    (97 ≤ run.flip.first ∧ run.flip.last ≤ 122 ∨ 0x80 ≤ run.flip.first) := by
  unfold Run.Scalar
  decide +kernel

/-- A lower-case form is the character itself, a letter from a to z or beyond ASCII. -/
theorem lowerCase_cases (c : Char) :
    lowerCase c = c ∨ (lowerCase c).isLower = true ∨ 0x80 ≤ (lowerCase c).toNat := by
  rcases mapRuns_eq_or c.toNat lowerRuns with heq | ⟨run, hmem, hmap⟩
  · left
    rw [lowerCase, heq, Char.ofNat_toNat]
  · right
    obtain ⟨hle, hscalar, htargets⟩ := lowerRuns_targets run hmem
    obtain ⟨hfirst, hlast, -⟩ := Run.map?_eq_some_iff.mp ((Run.map?_flip_iff hle).mpr hmap)
    have hvalue : (lowerCase c).toNat = mapRuns c.toNat lowerRuns :=
      hscalar.toNat_ofNat hfirst hlast
    rcases htargets with ⟨ha, hz⟩ | hbeyond
    · left
      have hletter : 97 ≤ (lowerCase c).toNat ∧ (lowerCase c).toNat ≤ 122 := by omega
      simpa [Char.isLower, UInt32.le_iff_toNat_le] using hletter
    · right
      omega

theorem mem_lowercaseChar {before after : List Char} {c d : Char}
    (h : d ∈ lowercaseChar before c after) : d = c ∨ d.isLower = true ∨ 0x80 ≤ d.toNat := by
  unfold lowercaseChar at h
  split at h
  · right; right
    rw [List.mem_singleton] at h
    split at h <;> rw [h] <;> decide
  · split at h
    · right
      rcases List.mem_cons.mp h with rfl | h
      · left; decide
      · right
        rw [List.mem_singleton.mp h]
        decide
    · rw [List.mem_singleton.mp h]
      exact lowerCase_cases c

theorem mem_lowercaseAfter {before cs : List Char} {d : Char} (h : d ∈ lowercaseAfter before cs) :
    d ∈ cs ∨ d.isLower = true ∨ 0x80 ≤ d.toNat := by
  induction cs generalizing before with
  | nil => cases h
  | cons c rest ih =>
    rw [lowercaseAfter, List.mem_append] at h
    rcases h with h | h
    · rcases mem_lowercaseChar h with rfl | hother
      · exact .inl List.mem_cons_self
      · exact .inr hother
    · exact (ih h).imp_left (List.mem_cons_of_mem c)

/-- **What stands in a lower-case form** stands in the text itself, is a letter from a to z or lies
beyond ASCII. -/
theorem mem_lowercase {text : String} {d : Char} (h : d ∈ (lowercase text).toList) :
    d ∈ text.toList ∨ d.isLower = true ∨ 0x80 ≤ d.toNat := by
  rw [lowercase, String.toList_ofList] at h
  exact mem_lowercaseAfter h

/-- A lower-case form is at most twice as long. -/
theorem length_lowercase_le (text : String) : (lowercase text).length ≤ 2 * text.length := by
  have hafter (before cs : List Char) : (lowercaseAfter before cs).length ≤ 2 * cs.length := by
    induction cs generalizing before with
    | nil => exact Nat.zero_le _
    | cons c rest ih =>
      have hchar : (lowercaseChar before c rest).length ≤ 2 := by
        unfold lowercaseChar
        split_ifs <;> simp
      have hrest := ih (c :: before)
      rw [lowercaseAfter, List.length_append, List.length_cons]
      omega
  rw [lowercase, String.length_ofList, ← String.length_toList]
  exact hafter [] text.toList

end Folio
