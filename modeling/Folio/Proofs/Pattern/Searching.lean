import Mathlib.Data.Finset.Card
import Mathlib.Data.Finset.Range
import Folio.Pattern.Search
import Folio.Proofs.Pattern.Emission

/-!
# Searching finds what matches

A search tries the ways through a program one after the other and never takes up a place twice at
one position. It stops at the first way that reaches the end, and it finds one if there is one:
where it has been, every way on has been tried or is still to be tried.

* `Thread.At`: a thread is at its position in a text.
* `Instr.at_of_mem_step`, `Instr.exists_mem_step`: the ways on from a thread.
* `explore_sound`: what is found has been reached.
* `Met`: the places where the search has been or will be.
* `Explored`, `explore_complete`: if nothing is found, no way on leads to the end.
* **`search_eq_some`**, **`search_isSome_iff`**: a text is found to match where the expression
  matches a stretch of it.
-/

namespace Folio.Pattern

/-! ## Threads -/

/-- The thread is at its position in the text. -/
structure Thread.At (thread : Thread) (cs : List Char) : Prop where
  before : thread.before = charBefore cs thread.position
  rest : thread.rest = cs.drop thread.position
  le : thread.position ≤ cs.length

variable {cs : List Char} {thread other : Thread} {instr : Instr}

theorem Thread.At.next? (h : thread.At cs) : thread.rest.head? = cs[thread.position]? := by
  rw [h.rest, List.head?_drop]

theorem Thread.At.holds_iff (h : thread.At cs) (condition : Look) :
    condition.holds thread.before thread.rest.head? ↔ condition.HoldsAt cs thread.position := by
  rw [h.next?, h.before, Look.HoldsAt]

/-- The thread after a character. -/
theorem Thread.At.advance (h : thread.At cs) {c : Char} {rest : List Char}
    (hrest : thread.rest = c :: rest) (place : Nat) :
    Thread.At { thread with place := place, before := some c, rest := rest,
                            position := thread.position + 1 } cs := by
  have hdrop : cs.drop thread.position = c :: rest := h.rest ▸ hrest
  have hlt : thread.position < cs.length := by
    by_contra hge
    rw [List.drop_eq_nil_of_le (by omega)] at hdrop
    cases hdrop
  have hget : cs[thread.position]? = some c := by
    rw [← List.head?_drop, hdrop, List.head?_cons]
  constructor
  · show some c = charBefore cs (thread.position + 1)
    rw [charBefore, List.take_add_one, hget, Option.toList_some, List.getLast?_concat]
  · show rest = cs.drop (thread.position + 1)
    rw [← List.tail_drop, hdrop, List.tail_cons]
  · exact hlt

/-- **The ways on from a thread** are those of its instruction. -/
theorem Instr.at_of_mem_step (h : thread.At cs) (hmem : other ∈ instr.step thread) :
    other.At cs ∧ instr.Goes cs thread.position other.place other.position := by
  cases instr with
  | one set next =>
    cases hrest : thread.rest with
    | nil => simp [step, hrest] at hmem
    | cons c rest =>
      simp only [step, hrest] at hmem
      split at hmem
      · next hset =>
        obtain rfl := List.mem_singleton.mp hmem
        refine ⟨h.advance hrest next, .one ?_ hset⟩
        rw [← h.next?, hrest]
        rfl
      · cases hmem
  | look condition next =>
    simp only [step] at hmem
    split at hmem
    · next hholds =>
      obtain rfl := List.mem_singleton.mp hmem
      exact ⟨⟨h.before, h.rest, h.le⟩, .look ((h.holds_iff condition).mp hholds)⟩
    · cases hmem
  | mark slot next =>
    obtain rfl := List.mem_singleton.mp hmem
    exact ⟨⟨h.before, h.rest, h.le⟩, .mark⟩
  | fork first second =>
    rcases List.mem_pair.mp hmem with rfl | rfl
    · exact ⟨⟨h.before, h.rest, h.le⟩, .first⟩
    · exact ⟨⟨h.before, h.rest, h.le⟩, .second⟩
  | accept => cases hmem

/-- No way on is forgotten. -/
theorem Instr.exists_mem_step (h : thread.At cs) {place position : Nat}
    (hgoes : instr.Goes cs thread.position place position) :
    ∃ other ∈ instr.step thread, other.place = place ∧ other.position = position := by
  generalize hi : thread.position = i at hgoes
  cases hgoes with
  | @one set next i c hc hset =>
    subst hi
    have hhead : thread.rest.head? = some c := h.next?.trans hc
    obtain ⟨rest, hrest⟩ := List.head?_eq_some_iff.mp hhead
    simp [step, hrest, hset]
  | @look condition next i hholds =>
    subst hi
    simp [step, (h.holds_iff condition).mpr hholds]
  | mark => simp [step, hi]
  | first => simp [step, hi]
  | second => simp [step, hi]

theorem Instr.length_step (instr : Instr) (thread : Thread) : (instr.step thread).length ≤ 2 := by
  unfold step
  split
  · split
    · simp
    · split <;> simp
  · split <;> simp
  · simp
  · simp
  · simp

/-! ## What is found -/

/-- What is found has been reached, and it is at the end of the program. -/
theorem explore_sound {program : Program} {fuel : Nat} {seen : Std.HashSet Nat}
    {threads : List Thread} {found : Thread} (reached : Thread → Prop)
    (hstep : ∀ thread instr, reached thread → program.instrs[thread.place]? = some instr →
      ∀ other ∈ instr.step thread, reached other)
    (hthreads : ∀ thread ∈ threads, reached thread)
    (h : program.explore fuel seen threads = some found) :
    reached found ∧ program.instrs[found.place]? = some .accept := by
  induction fuel generalizing seen threads with
  | zero => cases h
  | succ fuel ih =>
    cases threads with
    | nil => cases h
    | cons thread threads =>
      obtain ⟨hthread, hrest⟩ := List.forall_mem_cons.mp hthreads
      rw [Program.explore] at h
      split at h
      · exact ih hrest h
      · split at h
        · exact ih hrest h
        · next hcode =>
          obtain rfl := Option.some.inj h
          exact ⟨hthread, hcode⟩
        · next instr hgoing hcode =>
          refine ih (fun other hmem => ?_) h
          rcases List.mem_append.mp hmem with hmem | hmem
          · exact hstep thread instr hthread hcode other hmem
          · exact hrest other hmem

/-! ## What is not found -/

/-- The place has been taken up at the position. -/
def Visited (program : Program) (seen : Std.HashSet Nat) (place position : Nat) : Prop :=
  place < program.instrs.size ∧ position * program.instrs.size + place ∈ seen

/-- A thread at the place and the position is still to be taken up. -/
def Pending (threads : List Thread) (place position : Nat) : Prop :=
  ∃ thread ∈ threads, thread.place = place ∧ thread.position = position

/-- The search has been at a place at a position, or will be. -/
def Met (program : Program) (seen : Std.HashSet Nat) (threads : List Thread)
    (place position : Nat) : Prop :=
  Visited program seen place position ∨ Pending threads place position

/-- **Where the search has been**, the end was not met, and each way on leads to where it has been,
to what is still to be taken up, or out of the program. -/
structure Explored (cs : List Char) (program : Program) (seen : Std.HashSet Nat)
    (threads : List Thread) : Prop where
  going : ∀ {place position}, Visited program seen place position →
    program.instrs[place]? ≠ some .accept
  ahead : ∀ {place position instr place' position'}, Visited program seen place position →
    program.instrs[place]? = some instr → instr.Goes cs position place' position' →
    Met program seen threads place' position' ∨ program.instrs[place']? = none

variable {program : Program} {seen : Std.HashSet Nat} {threads : List Thread}

/-- A walk from outside of the program stays where it is. -/
theorem Walk.eq_of_none {code : Array Instr} {n p i q k : Nat} (h : Walk cs code n p i q k)
    (hcode : code[p]? = none) : q = p := by
  cases h with
  | here => rfl
  | step hcode' _ _ =>
    rw [hcode] at hcode'
    cases hcode'

/-- If nothing is pending, no walk leads to the end. -/
theorem Explored.walk (h : Explored cs program seen []) {n p i q k : Nat}
    (hvisited : Visited program seen p i) (hwalk : Walk cs program.instrs n p i q k) :
    program.instrs[q]? ≠ some .accept := by
  induction hwalk with
  | here => exact h.going hvisited
  | step hcode hgoes hrest ih =>
    rcases h.ahead hvisited hcode hgoes with (hvisited' | ⟨thread, hmem, -⟩) | hnone
    · exact ih hvisited'
    · cases hmem
    · rw [hrest.eq_of_none hnone, hnone]
      exact (Option.some_ne_none _).symm

/-- A thread that is passed over was met before, or leads out of the program. -/
theorem Met.skip {place position : Nat} (h : Met program seen (thread :: threads) place position)
    (hthread : Visited program seen thread.place thread.position ∨
      program.instrs[thread.place]? = none) :
    Met program seen threads place position ∨ program.instrs[place]? = none := by
  rcases h with hvisited | ⟨other, hmem, rfl, rfl⟩
  · exact .inl (.inl hvisited)
  · rcases List.mem_cons.mp hmem with rfl | hmem
    · exact hthread.imp .inl id
    · exact .inl (.inr ⟨other, hmem, rfl, rfl⟩)

theorem Explored.skip (h : Explored cs program seen (thread :: threads))
    (hthread : Visited program seen thread.place thread.position ∨
      program.instrs[thread.place]? = none) : Explored cs program seen threads where
  going := h.going
  ahead hvisited hcode hgoes :=
    (h.ahead hvisited hcode hgoes).elim (fun hmet => hmet.skip hthread) .inr

/-- Two places at two positions have one number only if they are the same. -/
theorem place_eq_of_key {size place other position position' : Nat} (hplace : place < size)
    (hother : other < size) (h : position * size + place = position' * size + other) :
    place = other ∧ position = position' := by
  have hmod := congrArg (· % size) h
  simp only [Nat.mul_add_mod', Nat.mod_eq_of_lt hplace, Nat.mod_eq_of_lt hother] at hmod
  refine ⟨hmod, Nat.eq_of_mul_eq_mul_right (Nat.zero_lt_of_lt hplace) ?_⟩
  omega

theorem visited_insert_iff {place position : Nat} (hthread : thread.place < program.instrs.size) :
    Visited program (seen.insert (thread.position * program.instrs.size + thread.place)) place
        position ↔
      (place = thread.place ∧ position = thread.position) ∨
        Visited program seen place position := by
  unfold Visited
  rw [Std.HashSet.mem_insert, beq_iff_eq]
  constructor
  · rintro ⟨hplace, hkey | hseen⟩
    · exact .inl (place_eq_of_key hplace hthread hkey.symm)
    · exact .inr ⟨hplace, hseen⟩
  · rintro (⟨rfl, rfl⟩ | ⟨hplace, hseen⟩)
    · exact ⟨hthread, .inl rfl⟩
    · exact ⟨hplace, .inr hseen⟩

/-- Taking up a thread, nothing is lost that was met. -/
theorem Met.take {place position : Nat} (h : Met program seen (thread :: threads) place position)
    (hthread : thread.place < program.instrs.size) (more : List Thread) :
    Met program (seen.insert (thread.position * program.instrs.size + thread.place))
      (more ++ threads) place position := by
  rcases h with hvisited | ⟨other, hmem, rfl, rfl⟩
  · exact .inl ((visited_insert_iff hthread).mpr (.inr hvisited))
  · rcases List.mem_cons.mp hmem with rfl | hmem
    · exact .inl ((visited_insert_iff hthread).mpr (.inl ⟨rfl, rfl⟩))
    · exact .inr ⟨other, List.mem_append_right _ hmem, rfl, rfl⟩

/-- Taking up a thread makes its ways on pending. -/
theorem Explored.take (h : Explored cs program seen (thread :: threads)) (hat : thread.At cs)
    (hcode : program.instrs[thread.place]? = some instr) (hgoing : instr ≠ .accept) :
    Explored cs program (seen.insert (thread.position * program.instrs.size + thread.place))
      (instr.step thread ++ threads) := by
  have hlt : thread.place < program.instrs.size := (Array.getElem?_eq_some_iff.mp hcode).1
  constructor
  · intro place position hvisited
    rcases (visited_insert_iff hlt).mp hvisited with ⟨rfl, rfl⟩ | hvisited
    · rw [hcode]
      exact fun heq => hgoing (Option.some.inj heq)
    · exact h.going hvisited
  · intro place position instr' place' position' hvisited hcode' hgoes
    rcases (visited_insert_iff hlt).mp hvisited with ⟨rfl, rfl⟩ | hvisited
    · obtain rfl := Option.some.inj (hcode.symm.trans hcode')
      obtain ⟨other, hmem, hplace, hposition⟩ := Instr.exists_mem_step hat hgoes
      exact .inl (.inr ⟨other, List.mem_append_left _ hmem, hplace, hposition⟩)
    · exact (h.ahead hvisited hcode' hgoes).imp (fun hmet => hmet.take hlt _) id

/-! ## Fuel -/

/-- How many places have not been taken up at some position. -/
def unseen (seen : Std.HashSet Nat) (bound : Nat) : Nat :=
  ((Finset.range bound).filter fun key => ¬ seen.contains key).card

theorem unseen_insert {key bound : Nat} (hkey : key < bound) (hnew : ¬ seen.contains key) :
    unseen (seen.insert key) bound + 1 = unseen seen bound := by
  have herase : (Finset.range bound).filter (fun other => ¬ (seen.insert key).contains other) =
      ((Finset.range bound).filter fun other => ¬ seen.contains other).erase key := by
    ext other
    simp only [Finset.mem_filter, Finset.mem_erase, Finset.mem_range, Std.HashSet.contains_insert]
    by_cases h : key = other
    · subst h
      simp
    · simp [h, Ne.symm h]
  have hmem : key ∈ (Finset.range bound).filter fun other => ¬ seen.contains other :=
    Finset.mem_filter.mpr ⟨Finset.mem_range.mpr hkey, hnew⟩
  unfold unseen
  rw [herase, Finset.card_erase_add_one hmem]

/-- The number of a place at a position is less than that of all numbers. -/
theorem key_lt (hat : thread.At cs) (hplace : thread.place < program.instrs.size) :
    thread.position * program.instrs.size + thread.place <
      program.instrs.size * (cs.length + 1) := by
  have hle := Nat.mul_le_mul_right program.instrs.size hat.le
  rw [Nat.mul_succ, Nat.mul_comm program.instrs.size]
  omega

/-- **If nothing is found, no walk leads to the end**, neither from where the search has been nor
from what was still to be taken up. -/
theorem explore_complete {fuel : Nat} (hat : ∀ thread ∈ threads, thread.At cs)
    (hexplored : Explored cs program seen threads)
    (hfuel : threads.length + 2 * unseen seen (program.instrs.size * (cs.length + 1)) < fuel)
    (h : program.explore fuel seen threads = none) {n p i q k : Nat}
    (hfrom : Met program seen threads p i) (hwalk : Walk cs program.instrs n p i q k) :
    program.instrs[q]? ≠ some .accept := by
  induction fuel generalizing seen threads with
  | zero => exact absurd hfuel (Nat.not_lt_zero _)
  | succ fuel ih =>
    cases threads with
    | nil =>
      rcases hfrom with hvisited | ⟨thread, hmem, -⟩
      · exact hexplored.walk hvisited hwalk
      · cases hmem
    | cons thread threads =>
      obtain ⟨hthread, hrest⟩ := List.forall_mem_cons.mp hat
      rw [Program.explore] at h
      rw [List.length_cons] at hfuel
      have hskip (hdone : Visited program seen thread.place thread.position ∨
          program.instrs[thread.place]? = none)
          (hlater : program.explore fuel seen threads = none) :
          program.instrs[q]? ≠ some .accept := by
        rcases hfrom.skip hdone with hfrom' | hnone
        · exact ih hrest (hexplored.skip hdone) (by omega) hlater hfrom'
        · rw [hwalk.eq_of_none hnone, hnone]
          exact (Option.some_ne_none _).symm
      split at h
      · next hseen =>
        refine hskip ?_ h
        rcases Nat.lt_or_ge thread.place program.instrs.size with hlt | hge
        · exact .inl ⟨hlt, Std.HashSet.mem_iff_contains.mpr hseen⟩
        · exact .inr (Array.getElem?_eq_none hge)
      · next hseen =>
        split at h
        · next hcode => exact hskip (.inr hcode) h
        · cases h
        · next instr hgoing hcode =>
          have hlt : thread.place < program.instrs.size := (Array.getElem?_eq_some_iff.mp hcode).1
          have hunseen := unseen_insert (key_lt hthread hlt) hseen
          have hlength := Instr.length_step instr thread
          refine ih ?_ (hexplored.take hthread hcode hgoing) ?_ h (hfrom.take hlt _)
          · intro other hmem
            rcases List.mem_append.mp hmem with hmem | hmem
            · exact (Instr.at_of_mem_step hthread hmem).1
            · exact hrest other hmem
          · rw [List.length_append]
            omega

/-! ## Searching -/

theorem place_of_mem_starts {before : Option Char} {position : Nat} {back : List Char}
    (h : thread ∈ program.starts before position back) : thread.place = program.start := by
  induction back generalizing before position with
  | nil =>
    obtain rfl := List.mem_singleton.mp h
    rfl
  | cons c back ih =>
    rcases List.mem_cons.mp h with rfl | h
    · rfl
    · exact ih h

theorem starts_at (program : Program) {back : List Char} {position : Nat}
    (hback : cs.drop position = back) (hle : position ≤ cs.length) :
    ∀ thread ∈ program.starts (charBefore cs position) position back, thread.At cs := by
  induction back generalizing position with
  | nil =>
    intro thread hmem
    obtain rfl := List.mem_singleton.mp hmem
    exact ⟨rfl, hback.symm, hle⟩
  | cons c back ih =>
    intro thread hmem
    have hfirst : Thread.At { place := program.start, before := charBefore cs position,
                              rest := c :: back, position := position } cs :=
      ⟨rfl, hback.symm, hle⟩
    have hnext := hfirst.advance rfl program.start
    rcases List.mem_cons.mp hmem with rfl | hmem
    · exact hfirst
    · have hbefore : charBefore cs (position + 1) = some c := hnext.before.symm
      exact ih hnext.rest.symm hnext.le thread (hbefore ▸ hmem)

theorem pending_starts (program : Program) {before : Option Char} {position i : Nat}
    {back : List Char} (hle : position ≤ i) (hi : i ≤ position + back.length) :
    Pending (program.starts before position back) program.start i := by
  induction back generalizing before position with
  | nil => exact ⟨_, List.mem_singleton_self _, rfl, by simpa using Nat.le_antisymm hle hi⟩
  | cons c back ih =>
    rcases Nat.eq_or_lt_of_le hle with rfl | hlt
    · exact ⟨_, List.mem_cons_self, rfl, rfl⟩
    · rw [List.length_cons] at hi
      obtain ⟨thread, hmem, hplace, hposition⟩ := @ih (some c) (position + 1) hlt (by omega)
      exact ⟨thread, List.mem_cons_of_mem _ hmem, hplace, hposition⟩

theorem length_starts (program : Program) (before : Option Char) (position : Nat)
    (back : List Char) : (program.starts before position back).length = back.length + 1 := by
  induction back generalizing before position with
  | nil => rfl
  | cons c back ih => rw [Program.starts, List.length_cons, ih, List.length_cons]

variable {node : Node} {text : String}

/-- **What is found is a match**: it ends where a stretch ends that the expression matches. -/
theorem search_eq_some (h : node.program.search text = some thread) :
    ∃ i ≤ text.toList.length, node.Spans text.toList i thread.position := by
  let reached (thread : Thread) : Prop :=
    thread.At text.toList ∧ ∃ i n, i ≤ text.toList.length ∧
      Walk text.toList node.program.instrs n node.program.start i thread.place thread.position
  have hstep (thread : Thread) (instr : Instr) (hreached : reached thread)
      (hcode : node.program.instrs[thread.place]? = some instr) :
      ∀ other ∈ instr.step thread, reached other := by
    obtain ⟨hat, i, n, hi, hwalk⟩ := hreached
    intro other hmem
    obtain ⟨hother, hgoes⟩ := Instr.at_of_mem_step hat hmem
    exact ⟨hother, i, n + 1, hi, hwalk.trans (.of_goes hcode hgoes)⟩
  have hstarts : ∀ thread ∈ node.program.starts none 0 text.toList, reached thread := by
    intro thread hmem
    have hat := starts_at node.program rfl (Nat.zero_le text.toList.length) thread hmem
    exact ⟨hat, thread.position, 0, hat.le, place_of_mem_starts hmem ▸ .here⟩
  obtain ⟨⟨-, i, n, hi, hwalk⟩, haccept⟩ := explore_sound reached hstep hstarts h
  rw [program_accept_iff.mp haccept] at hwalk
  exact ⟨i, hi, walk_program_iff.mp ⟨n, hwalk⟩⟩

/-- **A text is found to match where the expression matches a stretch of it.** -/
theorem search_isSome_iff : (node.program.search text).isSome ↔
    ∃ i ≤ text.toList.length, ∃ j, node.Spans text.toList i j := by
  constructor
  · intro h
    obtain ⟨thread, hthread⟩ := Option.isSome_iff_exists.mp h
    obtain ⟨i, hi, hspans⟩ := search_eq_some hthread
    exact ⟨i, hi, thread.position, hspans⟩
  · rintro ⟨i, hi, j, hspans⟩
    obtain ⟨n, hwalk⟩ := walk_program_iff.mpr hspans
    by_contra hnone
    rw [Option.not_isSome_iff_eq_none] at hnone
    have hat := starts_at node.program rfl (Nat.zero_le text.toList.length)
    have hstart : Explored text.toList node.program ∅ (node.program.starts none 0 text.toList) :=
      ⟨fun hvisited => absurd hvisited.2 Std.HashSet.not_mem_empty,
        fun hvisited => absurd hvisited.2 Std.HashSet.not_mem_empty⟩
    have hpending : Pending (node.program.starts none 0 text.toList) node.program.start i :=
      pending_starts node.program (Nat.zero_le i) (by omega)
    have hunseen : unseen ∅ (node.program.instrs.size * (text.toList.length + 1)) ≤
        node.program.instrs.size * (text.toList.length + 1) :=
      (Finset.card_filter_le _ _).trans (Finset.card_range _).le
    refine explore_complete hat hstart ?_ hnone (.inr hpending) hwalk (program_accept_iff.mpr rfl)
    rw [length_starts, List.drop_zero, Program.searchSteps, Nat.add_mul, Nat.mul_assoc]
    omega

end Folio.Pattern
