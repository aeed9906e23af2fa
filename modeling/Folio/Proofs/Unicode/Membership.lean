import Mathlib.Algebra.Ring.Nat
import Mathlib.Data.List.Basic
import Mathlib.Data.List.Pairwise
import Folio.Unicode.CharSet

/-!
# Membership in sets of characters

A set is searched by halves, which is right because its spans are in order and apart. Putting spans
in order and joining them loses no value and adds none.

* `Span.Covers`: the values of a span.
* **`CharSet.Ordered`**: spans in ascending order, apart from one another.
* `CharSet.hasFrom_iff`: binary search finds the span that covers a value.
* `CharSet.joinSpans_covers`, `CharSet.ordered_joinSpans`: joining spans.
* **`CharSet.has_ofSpans`**, `CharSet.has_ofChars`: the members of a set.
* `CharSet.width`, `CharSet.ofChars_le`: the size of a set of characters.
-/

namespace Folio.Unicode

/-- The value is in the span. -/
def Span.Covers (span : Span) (value : Nat) : Prop :=
  span.lo ≤ value ∧ value ≤ span.hi

namespace CharSet

/-- **Spans in ascending order**, none of them empty, apart from one another. -/
structure Ordered (spans : List Span) : Prop where
  apart : spans.Pairwise fun a b => a.hi < b.lo
  nonempty : ∀ span ∈ spans, span.lo ≤ span.hi

/-! ## Searching -/

/-- Of two spans in order, the first lies below the second. -/
theorem Ordered.lt {spans : Array Span} (h : Ordered spans.toList) {i j : Nat} {a b : Span}
    (hi : spans[i]? = some a) (hj : spans[j]? = some b) (hlt : i < j) : a.hi < b.lo := by
  obtain ⟨hi', rfl⟩ := Array.getElem?_eq_some_iff.mp hi
  obtain ⟨hj', rfl⟩ := Array.getElem?_eq_some_iff.mp hj
  exact List.pairwise_iff_getElem.mp h.apart i j (by simpa using hi') (by simpa using hj') hlt

theorem Ordered.le {spans : Array Span} (h : Ordered spans.toList) {i : Nat} {a : Span}
    (hi : spans[i]? = some a) : a.lo ≤ a.hi :=
  h.nonempty a (Array.mem_toList_iff.mpr (Array.mem_of_getElem? hi))

/-- **Binary search finds the span that covers a value.** -/
theorem hasFrom_iff {spans : Array Span} (h : Ordered spans.toList) {value n start : Nat}
    (hsize : start + n ≤ spans.size) :
    hasFrom spans value n start ↔
      ∃ i span, start ≤ i ∧ i < start + n ∧ spans[i]? = some span ∧ span.Covers value := by
  fun_induction hasFrom spans value n start with
  | case1 start =>
    simp only [Bool.false_eq_true, false_iff]
    rintro ⟨i, span, hle, hlt, -⟩
    omega
  | case2 n start half hnone =>
    rw [Array.getElem?_eq_none_iff] at hnone
    omega
  | case3 n start half span hmid hbelow ih =>
    rw [ih (by omega)]
    constructor
    · rintro ⟨i, other, hle, hlt, hi, hcovers⟩
      exact ⟨i, other, hle, by omega, hi, hcovers⟩
    · rintro ⟨i, other, hle, hlt, hi, hcovers⟩
      -- The spans from the middle one on lie above the value.
      refine ⟨i, other, hle, ?_, hi, hcovers⟩
      by_contra hge
      have hspan := h.le hmid
      rcases Nat.eq_or_lt_of_le (Nat.le_of_not_lt hge) with rfl | hgt
      · obtain rfl := Option.some.inj (hmid.symm.trans hi)
        have hlo := hcovers.1
        omega
      · have habove := h.lt hmid hi hgt
        have hlo := hcovers.1
        omega
  | case4 n start half span hmid hbelow habove ih =>
    rw [ih (by omega)]
    constructor
    · rintro ⟨i, other, hle, hlt, hi, hcovers⟩
      exact ⟨i, other, by omega, by omega, hi, hcovers⟩
    · rintro ⟨i, other, hle, hlt, hi, hcovers⟩
      refine ⟨i, other, ?_, by omega, hi, hcovers⟩
      by_contra hlt'
      have hother := h.le hi
      rcases Nat.eq_or_lt_of_le (Nat.le_of_not_lt hlt') with heq | hgt
      · obtain rfl : i = start + half := by omega
        obtain rfl := Option.some.inj (hmid.symm.trans hi)
        have hhi := hcovers.2
        omega
      · have hbefore := h.lt hi hmid (by omega)
        have hspan := h.le hmid
        have hhi := hcovers.2
        omega
  | case5 n start half span hmid hbelow habove =>
    simp only [true_iff]
    exact ⟨start + half, span, by omega, by omega, hmid, by omega, by omega⟩

theorem has_iff {set : CharSet} (h : Ordered set.spans.toList) {c : Char} :
    set.has c ↔ ∃ span ∈ set.spans.toList, span.Covers c.toNat := by
  rw [has, hasFrom_iff h (by omega)]
  constructor
  · rintro ⟨i, span, -, -, hi, hcovers⟩
    exact ⟨span, Array.mem_toList_iff.mpr (Array.mem_of_getElem? hi), hcovers⟩
  · rintro ⟨span, hmem, hcovers⟩
    obtain ⟨i, hi⟩ := Array.getElem?_of_mem (Array.mem_toList_iff.mp hmem)
    have hlt := (Array.getElem?_eq_some_iff.mp hi).1
    exact ⟨i, span, by omega, by omega, hi, hcovers⟩

/-! ## Joining -/

/-- Spans in the order of their lower ends. -/
def Ascending (spans : List Span) : Prop :=
  spans.Pairwise fun a b => a.lo ≤ b.lo

theorem joinSpans_covers {current : Span} {spans : List Span} (h : Ascending (current :: spans))
    (value : Nat) :
    (∃ span ∈ joinSpans current spans, span.Covers value) ↔
      ∃ span ∈ current :: spans, span.Covers value := by
  induction spans generalizing current with
  | nil => rfl
  | cons next rest ih =>
    obtain ⟨hcurrent, hrest⟩ := List.pairwise_cons.mp h
    obtain ⟨hnext, hlater⟩ := List.pairwise_cons.mp hrest
    have hle := hcurrent next List.mem_cons_self
    unfold joinSpans
    split
    · next htouch =>
      have hjoined : Ascending (⟨current.lo, max current.hi next.hi⟩ :: rest) :=
        List.pairwise_cons.mpr
          ⟨fun span hmem => hcurrent span (List.mem_cons_of_mem _ hmem), hlater⟩
      rw [ih hjoined]
      -- The joined span covers what the two cover: they touch, so nothing lies between them.
      have hcovers : (⟨current.lo, max current.hi next.hi⟩ : Span).Covers value ↔
          current.Covers value ∨ next.Covers value := by
        simp only [Span.Covers]
        omega
      simp only [List.mem_cons, exists_eq_or_imp, hcovers, or_assoc]
    · simp only [List.mem_cons, exists_eq_or_imp] at ih ⊢
      rw [ih hrest]

theorem ordered_joinSpans {current : Span} {spans : List Span} (h : Ascending (current :: spans))
    (hnonempty : ∀ span ∈ current :: spans, span.lo ≤ span.hi) :
    Ordered (joinSpans current spans) ∧ ∀ span ∈ joinSpans current spans, current.lo ≤ span.lo := by
  induction spans generalizing current with
  | nil =>
    refine ⟨⟨List.pairwise_singleton _ _, hnonempty⟩, fun span hmem => ?_⟩
    obtain rfl := List.mem_singleton.mp hmem
    exact Nat.le_refl _
  | cons next rest ih =>
    obtain ⟨hcurrent, hrest⟩ := List.pairwise_cons.mp h
    obtain ⟨hnext, hlater⟩ := List.pairwise_cons.mp hrest
    have hle := hcurrent next List.mem_cons_self
    have hspan := hnonempty current List.mem_cons_self
    unfold joinSpans
    split
    · have hjoined : Ascending (⟨current.lo, max current.hi next.hi⟩ :: rest) :=
        List.pairwise_cons.mpr
          ⟨fun span hmem => hcurrent span (List.mem_cons_of_mem _ hmem), hlater⟩
      refine ih hjoined fun span hmem => ?_
      rcases List.mem_cons.mp hmem with rfl | hmem
      · exact Nat.le_trans hspan (Nat.le_max_left _ _)
      · exact hnonempty span (by simp [hmem])
    · next hgap =>
      obtain ⟨⟨hapart, hfilled⟩, hlower⟩ :=
        ih hrest fun span hmem => hnonempty span (List.mem_cons_of_mem _ hmem)
      refine ⟨⟨List.pairwise_cons.mpr ⟨fun span hmem => ?_, hapart⟩, ?_⟩, ?_⟩
      · have habove := hlower span hmem
        omega
      · exact List.forall_mem_cons.mpr ⟨hspan, hfilled⟩
      · refine List.forall_mem_cons.mpr ⟨Nat.le_refl _, fun span hmem => ?_⟩
        have habove := hlower span hmem
        omega

/-! ## Putting in order -/

theorem mem_insertSpan {span other : Span} {spans : List Span} :
    other ∈ insertSpan span spans ↔ other = span ∨ other ∈ spans := by
  induction spans with
  | nil => simp [insertSpan]
  | cons next rest ih =>
    unfold insertSpan
    split
    · exact List.mem_cons
    · rw [List.mem_cons, ih, List.mem_cons, or_left_comm]

theorem ascending_insertSpan {span : Span} {spans : List Span} (h : Ascending spans) :
    Ascending (insertSpan span spans) := by
  induction spans with
  | nil => exact List.pairwise_singleton _ _
  | cons next rest ih =>
    obtain ⟨hnext, hrest⟩ := List.pairwise_cons.mp h
    unfold insertSpan
    split
    · next hle =>
      refine List.pairwise_cons.mpr ⟨fun other hmem => ?_, h⟩
      rcases List.mem_cons.mp hmem with rfl | hmem
      · exact hle
      · exact Nat.le_trans hle (hnext other hmem)
    · next hgt =>
      refine List.pairwise_cons.mpr ⟨fun other hmem => ?_, ih hrest⟩
      rcases mem_insertSpan.mp hmem with rfl | hmem
      · omega
      · exact hnext other hmem

theorem mem_foldr_insertSpan {span : Span} {spans : List Span} :
    span ∈ spans.foldr insertSpan [] ↔ span ∈ spans := by
  induction spans with
  | nil => rfl
  | cons next rest ih => rw [List.foldr_cons, mem_insertSpan, ih, List.mem_cons]

theorem ascending_foldr_insertSpan (spans : List Span) :
    Ascending (spans.foldr insertSpan []) := by
  induction spans with
  | nil => exact .nil
  | cons next rest ih => exact ascending_insertSpan ih

/-- The set of ascending spans has their values. -/
theorem has_ofOrdered {spans : List Span} (h : Ascending spans)
    (hnonempty : ∀ span ∈ spans, span.lo ≤ span.hi) {c : Char} :
    (ofOrdered spans).has c ↔ ∃ span ∈ spans, span.Covers c.toNat := by
  cases spans with
  | nil => exact has_iff ⟨.nil, hnonempty⟩
  | cons current rest =>
    rw [has_iff (ordered_joinSpans h hnonempty).1, ← joinSpans_covers h]
    rfl

/-- **The set of spans in any order has their values.** -/
theorem has_ofSpans {spans : List Span} (hnonempty : ∀ span ∈ spans, span.lo ≤ span.hi) {c : Char} :
    (ofSpans spans).has c ↔ ∃ span ∈ spans, span.Covers c.toNat := by
  have hsorted : ∀ span ∈ spans.foldr insertSpan [], span.lo ≤ span.hi := fun span hmem =>
    hnonempty span (mem_foldr_insertSpan.mp hmem)
  rw [ofSpans, has_ofOrdered (ascending_foldr_insertSpan spans) hsorted]
  simp only [mem_foldr_insertSpan]

/-- A set of characters has those characters. -/
theorem has_ofChars {cs : List Char} {c : Char} : (ofChars cs).has c ↔ c ∈ cs := by
  rw [ofChars, has_ofSpans (by simp)]
  constructor
  · rintro ⟨span, hmem, hlo, hhi⟩
    obtain ⟨d, hd, rfl⟩ := List.mem_map.mp hmem
    obtain rfl : d = c := Char.toNat_inj.mp (Nat.le_antisymm hlo hhi)
    exact hd
  · intro hmem
    exact ⟨_, List.mem_map_of_mem hmem, Nat.le_refl _, Nat.le_refl _⟩

/-! ## Size -/

/-- The number of values in spans, counted where they overlap. -/
def width (spans : List Span) : Nat :=
  (spans.map fun span => span.hi + 1 - span.lo).sum

theorem width_cons (span : Span) (spans : List Span) :
    width (span :: spans) = span.hi + 1 - span.lo + width spans := by
  rw [width, List.map_cons, List.sum_cons, width]

/-- Joining spans makes neither more values nor more spans. -/
theorem joinSpans_le (current : Span) (spans : List Span) :
    width (joinSpans current spans) ≤ width (current :: spans) ∧
      (joinSpans current spans).length ≤ (current :: spans).length := by
  induction spans generalizing current with
  | nil => exact ⟨Nat.le_refl _, Nat.le_refl _⟩
  | cons next rest ih =>
    unfold joinSpans
    split
    · next htouch =>
      obtain ⟨hwidth, hlength⟩ := ih ⟨current.lo, max current.hi next.hi⟩
      rw [width_cons, width_cons]
      simp only [width_cons, List.length_cons] at hwidth hlength ⊢
      omega
    · obtain ⟨hwidth, hlength⟩ := ih next
      rw [width_cons, width_cons current]
      simp only [List.length_cons] at hlength ⊢
      omega

theorem perm_insertSpan (span : Span) (spans : List Span) :
    (insertSpan span spans).Perm (span :: spans) := by
  induction spans with
  | nil => exact .refl _
  | cons next rest ih =>
    unfold insertSpan
    split
    · exact .refl _
    · exact (ih.cons next).trans (.swap span next rest)

theorem perm_foldr_insertSpan (spans : List Span) : (spans.foldr insertSpan []).Perm spans := by
  induction spans with
  | nil => exact .nil
  | cons next rest ih => exact (perm_insertSpan next _).trans (ih.cons next)

/-- **A set of characters has no more values and no more spans than there are characters.** -/
theorem ofChars_le (cs : List Char) :
    width (ofChars cs).spans.toList ≤ cs.length ∧ (ofChars cs).spans.size ≤ cs.length := by
  have hwidth : width (cs.map fun c => (⟨c.toNat, c.toNat⟩ : Span)) = cs.length := by
    induction cs with
    | nil => rfl
    | cons c cs ih =>
      rw [List.map_cons, width_cons, ih, List.length_cons]
      dsimp only
      omega
  have hperm := perm_foldr_insertSpan (cs.map fun c => (⟨c.toNat, c.toNat⟩ : Span))
  have hsorted : width ((cs.map fun c => (⟨c.toNat, c.toNat⟩ : Span)).foldr insertSpan []) =
      cs.length := by
    rw [← hwidth]
    exact (hperm.map _).sum_nat
  have hlength := hperm.length_eq
  rw [List.length_map] at hlength
  rw [ofChars, ofSpans]
  generalize (cs.map fun c => (⟨c.toNat, c.toNat⟩ : Span)).foldr insertSpan [] = sorted at *
  cases sorted with
  | nil => exact ⟨Nat.zero_le _, Nat.zero_le _⟩
  | cons current rest =>
    obtain ⟨hjoined, hjoinedLength⟩ := joinSpans_le current rest
    rw [ofOrdered, List.size_toArray]
    exact ⟨hsorted ▸ hjoined, hlength ▸ hjoinedLength⟩

end CharSet

end Folio.Unicode
