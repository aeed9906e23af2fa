import Folio.Proofs.Unicode.Membership
import Folio.Unicode.CaseMap

/-!
# Case folding

The runs of case folding are ascending and apart, and what they lead to they do not map again. So
folding twice is folding once, and the variants of a character are all that fold like it.

* `Run.Apart`, `mapRuns_of_mem`: what runs in ascending order map a value to.
* `Run.Scalar`, `toNat_foldCase`: runs stay among the scalar values.
* **`foldCase_foldCase`**: folding twice is folding once.
* **`mem_caseVariants_iff`**, `length_caseVariants_le`: the variants of a character.
-/

namespace Folio.Unicode

/-! ## Runs -/

namespace Run

theorem map?_eq_some_iff {run : Run} {n m : Nat} :
    run.map? n = some m ↔ run.first ≤ n ∧ n ≤ run.last ∧ (n - run.first) % run.stride = 0 ∧
      m = run.target + (n - run.first) := by
  unfold map?
  split
  · next h =>
    rw [Option.some.injEq]
    exact ⟨fun heq => ⟨h.1, h.2.1, h.2.2, heq.symm⟩, fun ⟨_, _, _, heq⟩ => heq.symm⟩
  · next h =>
    simp only [reduceCtorEq, false_iff]
    exact fun ⟨hfirst, hlast, hstride, _⟩ => h ⟨hfirst, hlast, hstride⟩

/-- The run that leads back maps the other way. -/
theorem map?_flip_iff {run : Run} (h : run.first ≤ run.last) {n m : Nat} :
    run.flip.map? m = some n ↔ run.map? n = some m := by
  rw [map?_eq_some_iff, map?_eq_some_iff]
  constructor
  · rintro ⟨hfirst, hlast, hstride, rfl⟩
    simp only [flip] at hfirst hlast hstride ⊢
    rw [Nat.add_sub_cancel_left]
    exact ⟨by omega, by omega, hstride, by omega⟩
  · rintro ⟨hfirst, hlast, hstride, rfl⟩
    simp only [flip]
    rw [Nat.add_sub_cancel_left]
    exact ⟨by omega, by omega, hstride, by omega⟩

theorem mem_values_of_map? {run : Run} {n m : Nat} (h : run.map? n = some m) : n ∈ run.values := by
  obtain ⟨hfirst, hlast, hstride, -⟩ := map?_eq_some_iff.mp h
  have hquotient : (n - run.first) / run.stride * run.stride = n - run.first :=
    Nat.div_mul_cancel (Nat.dvd_of_mod_eq_zero hstride)
  refine List.mem_map.mpr ⟨(n - run.first) / run.stride, List.mem_range.mpr ?_, ?_⟩
  · exact Nat.lt_succ_of_le (Nat.div_le_div_right (by omega))
  · rw [hquotient]
    omega

/-- **Runs in ascending order**, none of them empty, apart from one another. -/
structure Apart (runs : List Run) : Prop where
  apart : runs.Pairwise fun a b => a.last < b.first
  nonempty : ∀ run ∈ runs, run.first ≤ run.last

/-- It is enough to compare neighbours. -/
theorem apart_of_isChain {runs : List Run} (hnonempty : ∀ run ∈ runs, run.first ≤ run.last)
    (h : runs.IsChain fun a b => a.last < b.first) : Apart runs := by
  refine ⟨?_, hnonempty⟩
  induction runs with
  | nil => exact .nil
  | cons run rest ih =>
    cases rest with
    | nil => exact List.pairwise_singleton _ _
    | cons next later =>
      obtain ⟨hnext, htail⟩ := List.isChain_cons_cons.mp h
      have hrest := ih (fun other hmem => hnonempty other (List.mem_cons_of_mem _ hmem)) htail
      refine List.pairwise_cons.mpr ⟨fun other hmem => ?_, hrest⟩
      rcases List.mem_cons.mp hmem with rfl | hmem
      · exact hnext
      · have hfilled := hnonempty next (by simp)
        have hlater := (List.pairwise_cons.mp hrest).1 other hmem
        omega

end Run

theorem mapRuns_eq_or (n : Nat) (runs : List Run) :
    mapRuns n runs = n ∨ ∃ run ∈ runs, run.map? n = some (mapRuns n runs) := by
  induction runs with
  | nil => exact .inl rfl
  | cons run rest ih =>
    unfold mapRuns
    split
    · exact .inl rfl
    · cases hmap : run.map? n with
      | some m => exact .inr ⟨run, List.mem_cons_self, hmap⟩
      | none => exact ih.imp id fun ⟨other, hmem, h⟩ => ⟨other, List.mem_cons_of_mem _ hmem, h⟩

/-- A value is mapped by the run that covers it. -/
theorem mapRuns_of_mem {runs : List Run} (h : Run.Apart runs) {run : Run} (hmem : run ∈ runs)
    {n m : Nat} (hmap : run.map? n = some m) : mapRuns n runs = m := by
  obtain ⟨hfirst, hlast, -⟩ := Run.map?_eq_some_iff.mp hmap
  induction runs with
  | nil => cases hmem
  | cons other rest ih =>
    obtain ⟨hother, hrest⟩ := List.pairwise_cons.mp h.apart
    have hle := h.nonempty other List.mem_cons_self
    unfold mapRuns
    rcases List.mem_cons.mp hmem with rfl | hmem
    · rw [if_neg (by omega), hmap, Option.getD_some]
    · have hbelow := hother run hmem
      have hnone : other.map? n = none := by
        rw [Option.eq_none_iff_forall_ne_some]
        intro k hk
        have habove := (Run.map?_eq_some_iff.mp hk).2.1
        omega
      rw [if_neg (by omega), hnone, Option.getD_none]
      exact ih ⟨hrest, fun run hmem => h.nonempty run (List.mem_cons_of_mem _ hmem)⟩ hmem

/-! ## Values as bits -/

/-- The number whose bits stand for the values. -/
def maskOf (values : List Nat) : Nat :=
  values.foldr (fun n mask => mask ||| 1 <<< n) 0

theorem testBit_maskOf {values : List Nat} {n : Nat} : (maskOf values).testBit n ↔ n ∈ values := by
  induction values with
  | nil => simp [maskOf]
  | cons value rest ih =>
    have hbit : (1 <<< value).testBit n ↔ n = value := by
      rw [Nat.one_shiftLeft, Nat.testBit_two_pow, decide_eq_true_eq]
      exact eq_comm
    have hmask : maskOf (value :: rest) = maskOf rest ||| 1 <<< value := rfl
    rw [hmask, Nat.testBit_or, Bool.or_eq_true, ih, hbit, List.mem_cons, or_comm]

theorem not_mem_of_maskOf {values others : List Nat} (h : maskOf values &&& maskOf others = 0)
    {n : Nat} (hn : n ∈ values) : n ∉ others := by
  intro hother
  have hbit : (maskOf values &&& maskOf others).testBit n = true := by
    rw [Nat.testBit_and, testBit_maskOf.mpr hn, testBit_maskOf.mpr hother, Bool.and_self]
  rw [h, Nat.zero_testBit] at hbit
  cases hbit

/-! ## The runs of case folding -/

theorem apart_foldRuns : Run.Apart foldRuns :=
  Run.apart_of_isChain (by decide +kernel) (by decide +kernel)

/-- A run lies apart from the surrogates and below the last scalar value. -/
def Run.Scalar (run : Run) : Prop :=
  run.last < 0xD800 ∨ 0xE000 ≤ run.first ∧ run.last < 0x110000

theorem scalar_foldRuns : ∀ run ∈ foldRuns, run.Scalar ∧ run.flip.Scalar := by
  unfold Run.Scalar
  decide +kernel

/-- The values that are folded, and those that they are folded to. -/
theorem foldRuns_disjoint :
    maskOf (foldRuns.flatMap Run.values) &&& maskOf (foldRuns.flatMap fun run => run.flip.values) =
      0 := by
  decide +kernel

/-- What a run leads to is not mapped again. -/
theorem mapRuns_target {run : Run} (hmem : run ∈ foldRuns) {n m : Nat}
    (hmap : run.map? n = some m) : mapRuns m foldRuns = m := by
  rcases mapRuns_eq_or m foldRuns with heq | ⟨other, hother, hmap'⟩
  · exact heq
  · have hflip : run.flip.map? m = some n :=
      (Run.map?_flip_iff (apart_foldRuns.nonempty run hmem)).mpr hmap
    have hsource : m ∈ foldRuns.flatMap Run.values :=
      List.mem_flatMap.mpr ⟨other, hother, Run.mem_values_of_map? hmap'⟩
    have htarget : m ∈ foldRuns.flatMap fun run => run.flip.values :=
      List.mem_flatMap.mpr ⟨run, hmem, Run.mem_values_of_map? hflip⟩
    exact absurd htarget (not_mem_of_maskOf foldRuns_disjoint hsource)

/-! ## Folding -/

/-- What stands in a run is a scalar value. -/
theorem Run.Scalar.toNat_ofNat {run : Run} (h : run.Scalar) {n : Nat} (hfirst : run.first ≤ n)
    (hlast : n ≤ run.last) : (Char.ofNat n).toNat = n := by
  have hvalid : n.isValidChar := by
    rcases h with h | ⟨h, h'⟩
    · exact .inl (by omega)
    · exact .inr ⟨by omega, by omega⟩
  rw [Char.ofNat, dif_pos hvalid]
  rfl

theorem toNat_foldCase (c : Char) : (foldCase c).toNat = mapRuns c.toNat foldRuns := by
  rcases mapRuns_eq_or c.toNat foldRuns with heq | ⟨run, hmem, hmap⟩
  · rw [foldCase, heq, Char.ofNat_toNat]
  · have hflip := (Run.map?_flip_iff (apart_foldRuns.nonempty run hmem)).mpr hmap
    obtain ⟨hfirst, hlast, -⟩ := Run.map?_eq_some_iff.mp hflip
    exact (scalar_foldRuns run hmem).2.toNat_ofNat hfirst hlast

/-- **Folding twice is folding once.** -/
theorem foldCase_foldCase (c : Char) : foldCase (foldCase c) = foldCase c := by
  rw [← Char.toNat_inj, toNat_foldCase, toNat_foldCase]
  rcases mapRuns_eq_or c.toNat foldRuns with heq | ⟨run, hmem, hmap⟩
  · rw [heq, heq]
  · exact mapRuns_target hmem hmap

/-- The characters that a run leads to `folded`. -/
theorem mem_unfoldings_iff {d folded : Char} :
    d ∈ unfoldings folded ↔ ∃ run ∈ foldRuns, run.map? d.toNat = some folded.toNat := by
  rw [unfoldings, List.mem_filterMap]
  refine exists_congr fun run => and_congr_right fun hmem => ?_
  have hflip {n : Nat} : run.flip.map? folded.toNat = some n ↔ run.map? n = some folded.toNat :=
    Run.map?_flip_iff (apart_foldRuns.nonempty run hmem)
  rw [Option.map_eq_some_iff]
  constructor
  · rintro ⟨n, hn, rfl⟩
    have hmap := hflip.mp hn
    obtain ⟨hfirst, hlast, -⟩ := Run.map?_eq_some_iff.mp hmap
    rwa [(scalar_foldRuns run hmem).1.toNat_ofNat hfirst hlast]
  · intro hmap
    exact ⟨d.toNat, hflip.mpr hmap, Char.ofNat_toNat d⟩

/-- **The variants of a character are all that fold like it.** -/
theorem mem_caseVariants_iff {c d : Char} : d ∈ caseVariants c ↔ foldCase d = foldCase c := by
  rw [caseVariants, List.mem_cons, mem_unfoldings_iff]
  constructor
  · rintro (rfl | ⟨run, hmem, hmap⟩)
    · exact foldCase_foldCase c
    · rw [← Char.toNat_inj, toNat_foldCase]
      exact mapRuns_of_mem apart_foldRuns hmem hmap
  · intro h
    rcases mapRuns_eq_or d.toNat foldRuns with heq | ⟨run, hmem, hmap⟩
    · left
      rw [← h, foldCase, heq, Char.ofNat_toNat]
    · right
      rw [← h, toNat_foldCase]
      exact ⟨run, hmem, hmap⟩

/-! ## The number of variants -/

/-- Does the value lie between the ends of what the run leads to? -/
def Run.bracketsTarget (n : Nat) (run : Run) : Bool :=
  run.flip.first.ble n && n.ble run.flip.last

/-- At most three runs lead to one value. It is enough to look where one of them begins: a value
further up lies between the ends of no other runs than the value before it. -/
theorem countP_bracketsTarget_le (n : Nat) : foldRuns.countP (Run.bracketsTarget n) ≤ 3 := by
  have hstarts : ∀ run ∈ foldRuns, foldRuns.countP (Run.bracketsTarget run.flip.first) ≤ 3 := by
    decide +kernel
  induction n with
  | zero => decide +kernel
  | succ n ih =>
    by_cases hstart : ∃ run ∈ foldRuns, run.flip.first = n + 1
    · obtain ⟨run, hmem, hfirst⟩ := hstart
      exact hfirst ▸ hstarts run hmem
    · refine Nat.le_trans (List.countP_mono_left fun run hmem hbrackets => ?_) ih
      have hne : run.flip.first ≠ n + 1 := fun hfirst => hstart ⟨run, hmem, hfirst⟩
      simp only [Run.bracketsTarget, Bool.and_eq_true, Nat.ble_eq] at hbrackets ⊢
      omega

/-- **A character has at most four variants.** -/
theorem length_caseVariants_le (c : Char) : (caseVariants c).length ≤ 4 := by
  rw [caseVariants, List.length_cons, unfoldings, List.length_filterMap_eq_countP]
  have hcount := countP_bracketsTarget_le (foldCase c).toNat
  refine Nat.succ_le_succ (Nat.le_trans (List.countP_mono_left fun run _ hmap => ?_) hcount)
  rw [Option.isSome_map] at hmap
  obtain ⟨m, hm⟩ := Option.isSome_iff_exists.mp hmap
  obtain ⟨hfirst, hlast, -⟩ := Run.map?_eq_some_iff.mp hm
  simp only [Run.bracketsTarget, Bool.and_eq_true, Nat.ble_eq]
  exact ⟨hfirst, hlast⟩

end Folio.Unicode
