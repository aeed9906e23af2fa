import Mathlib.Tactic.Common
import Folio.Proofs.Pattern.Matching

/-!
# Programs match what their expressions match

The instructions of a part lie together, behind those that were there before. A walk that enters
them can only leave them for the instruction that comes next, and it has then crossed a stretch that
the part matches.

* `Instr.Goes`, **`Walk`**: the ways on from an instruction, and walks of a number of steps.
* `Realises`: instructions that match the stretches of a relation on the way to the next.
* **`Implements`**: what puts such instructions anywhere; `Puts.before`, `Puts.fork` and `Puts.loop`
  put parts together.
* **`implements_emit`**: expressions are emitted so, one lemma for each kind.
* **`walk_program_iff`**: the walks through the program of an expression.
-/

namespace Folio.Pattern

open Unicode (CharSet)

/-! ## Walks -/

/-- The ways on from an instruction at a position: the place and the position that they lead to. -/
inductive Instr.Goes (cs : List Char) : Instr → Nat → Nat → Nat → Prop
  | one {set : CharSet} {next i : Nat} {c : Char} (hc : c ∈ cs[i]?) (hset : set.has c) :
    Goes cs (.one set next) i next (i + 1)
  | look {condition : Look} {next i : Nat} (h : condition.HoldsAt cs i) :
    Goes cs (.look condition next) i next i
  | mark {slot next i : Nat} : Goes cs (.mark slot next) i next i
  | first {first second i : Nat} : Goes cs (.fork first second) i first i
  | second {first second i : Nat} : Goes cs (.fork first second) i second i

/-- **A walk of `n` steps** from a place and a position to others. -/
inductive Walk (cs : List Char) (code : Array Instr) : Nat → Nat → Nat → Nat → Nat → Prop
  | here {p i : Nat} : Walk cs code 0 p i p i
  | step {n p i p' i' q k : Nat} {instr : Instr} (hcode : code[p]? = some instr)
    (hgoes : instr.Goes cs i p' i') (hrest : Walk cs code n p' i' q k) :
    Walk cs code (n + 1) p i q k

section

variable {cs : List Char} {code : Array Instr} {n m p q r i j k : Nat}

theorem Walk.trans (h : Walk cs code n p i q j) (hmore : Walk cs code m q j r k) :
    Walk cs code (n + m) p i r k := by
  induction h with
  | here => rwa [Nat.zero_add]
  | step hcode hgoes _ ih =>
    rw [Nat.add_right_comm]
    exact .step hcode hgoes (ih hmore)

/-- A walk to another place takes a step. -/
theorem Walk.cases_ne {instr : Instr} (h : Walk cs code n p i q k) (hcode : code[p]? = some instr)
    (hne : q ≠ p) :
    ∃ m p' i', n = m + 1 ∧ instr.Goes cs i p' i' ∧ Walk cs code m p' i' q k := by
  cases h with
  | here => exact absurd rfl hne
  | step hcode' hgoes hrest =>
    obtain rfl := Option.some.inj (hcode'.symm.trans hcode)
    exact ⟨_, _, _, rfl, hgoes, hrest⟩

theorem Walk.of_goes {instr : Instr} (hcode : code[p]? = some instr) (hgoes : instr.Goes cs i q j) :
    Walk cs code 1 p i q j :=
  .step hcode hgoes .here

theorem goes_branch {greedy : Bool} {body past : Nat} :
    (branch greedy body past).Goes cs i p j ↔ (p = body ∨ p = past) ∧ j = i := by
  unfold branch
  constructor
  · intro h
    split at h <;> cases h <;> simp
  · rintro ⟨rfl | rfl, rfl⟩ <;> split
    · exact .first
    · exact .second
    · exact .second
    · exact .first

end

/-! ## Parts of a program -/

/-- The instructions from `lo` to `hi`, entered at `start`, match stretches of `R` on the way to
`next`: a walk out of them leads through `next`, and there is one for every stretch. -/
structure Realises (cs : List Char) (code : Array Instr) (lo hi start next : Nat)
    (R : Nat → Nat → Prop) : Prop where
  leave : ∀ {n i q k : Nat}, q < lo ∨ hi ≤ q → Walk cs code n start i q k →
    ∃ m ≤ n, ∃ j, R i j ∧ Walk cs code m next j q k
  cross : ∀ {i j : Nat}, R i j → ∃ n, Walk cs code n start i next j

/-- The code holds the instructions from `lo` on. -/
def HoldsFrom (code instrs : Array Instr) (lo : Nat) : Prop :=
  ∀ p, lo ≤ p → p < instrs.size → code[p]? = instrs[p]?

/-- Instructions put behind those of `instrs`, which are kept, match stretches of `R` in every
program that holds them. -/
structure Puts (cs : List Char) (instrs whole : Array Instr) (start next : Nat)
    (R : Nat → Nat → Prop) : Prop where
  size_le : instrs.size ≤ whole.size
  kept : ∀ p < instrs.size, whole[p]? = instrs[p]?
  going : ∀ p, instrs.size ≤ p → whole[p]? ≠ some .accept
  start_lt : start < whole.size
  realises : ∀ {code : Array Instr}, HoldsFrom code whole instrs.size →
    Realises cs code instrs.size whole.size start next R

/-- **A part matches the stretches of `R`**, wherever its instructions are put. -/
def Implements (cs : List Char) (part : Emit) (R : Nat → Nat → Prop) : Prop :=
  ∀ {next : Nat} {instrs whole : Array Instr} {start : Nat}, next < instrs.size →
    part next instrs = (start, whole) → Puts cs instrs whole start next R

section

variable {cs : List Char} {instrs middle whole : Array Instr} {next start entry : Nat}
  {R S : Nat → Nat → Prop}

theorem HoldsFrom.back {code : Array Instr} (h : HoldsFrom code whole instrs.size)
    (hputs : Puts cs middle whole start entry R) : HoldsFrom code middle instrs.size := by
  intro p hlo hhi
  have hle := hputs.size_le
  rw [h p hlo (by omega), hputs.kept p hhi]

theorem HoldsFrom.front {code : Array Instr} (h : HoldsFrom code whole instrs.size)
    (hle : instrs.size ≤ middle.size) : HoldsFrom code whole middle.size :=
  fun p hlo hhi => h p (Nat.le_trans hle hlo) hhi

theorem Puts.congr (h : Puts cs instrs whole start next R) (hrel : ∀ i j, R i j ↔ S i j) :
    Puts cs instrs whole start next S := by
  obtain rfl : R = S := funext fun i => funext fun j => propext (hrel i j)
  exact h

theorem getElem?_ne_of_size_le {instr : Instr} {p : Nat} (hp : instrs.size ≤ p) :
    instrs[p]? ≠ some instr := by
  rw [Array.getElem?_eq_none hp]
  exact (Option.some_ne_none _).symm

/-- Another instruction that does not accept. -/
theorem going_push {instr : Instr} {lo : Nat} (h : ∀ p, lo ≤ p → whole[p]? ≠ some .accept)
    (hgoing : instr ≠ .accept) (p : Nat) (hp : lo ≤ p) : (whole.push instr)[p]? ≠ some .accept := by
  rw [Array.getElem?_push]
  split
  · exact fun heq => hgoing (Option.some.inj heq)
  · exact h p hp

theorem branch_ne_accept (greedy : Bool) (body past : Nat) : branch greedy body past ≠ .accept := by
  unfold branch
  split <;> exact Instr.noConfusion

/-- No instructions match the empty text. -/
theorem puts_nothing (hnext : next < instrs.size) :
    Puts cs instrs instrs next next fun i j => i = j where
  size_le := Nat.le_refl _
  kept _ _ := rfl
  going _ hp := getElem?_ne_of_size_le hp
  start_lt := hnext
  realises _ := ⟨fun _ hwalk => ⟨_, Nat.le_refl _, _, rfl, hwalk⟩, fun h => ⟨0, h ▸ .here⟩⟩

theorem getElem?_push_of_lt (instr : Instr) {p : Nat} (hp : p < instrs.size) :
    (instrs.push instr)[p]? = instrs[p]? := by
  rw [Array.getElem?_push_lt hp, Array.getElem?_eq_getElem hp]

theorem HoldsFrom.last {code : Array Instr} {instr : Instr} {lo : Nat}
    (h : HoldsFrom code (instrs.push instr) lo) (hlo : lo ≤ instrs.size) :
    code[instrs.size]? = some instr := by
  rw [h _ hlo (by simp), Array.getElem?_push_size]

/-- One instruction. -/
theorem puts_push {instr : Instr} (hgoing : instr ≠ .accept)
    (h : ∀ i p j, instr.Goes cs i p j ↔ p = next ∧ R i j) :
    Puts cs instrs (instrs.push instr) instrs.size next R where
  size_le := by simp
  kept _ hp := getElem?_push_of_lt instr hp
  going _ hp := going_push (fun _ hp => getElem?_ne_of_size_le hp) hgoing _ hp
  start_lt := by simp
  realises {code} hholds := by
    have hcode := hholds.last (Nat.le_refl _)
    constructor
    · intro n i q k hout hwalk
      rw [Array.size_push] at hout
      obtain ⟨m, p, j, rfl, hgoes, hrest⟩ := hwalk.cases_ne hcode (by omega)
      obtain ⟨rfl, hij⟩ := (h _ _ _).mp hgoes
      exact ⟨m, Nat.le_succ m, j, hij, hrest⟩
    · intro i j hij
      exact ⟨1, .of_goes hcode ((h _ _ _).mpr ⟨rfl, hij⟩)⟩

theorem Puts.going_from {place : Nat} (hfirst : Puts cs middle whole start entry R)
    (hsecond : Puts cs instrs middle place next S) (p : Nat) (hp : instrs.size ≤ p) :
    whole[p]? ≠ some .accept := by
  rcases Nat.lt_or_ge p middle.size with hlt | hge
  · rw [hfirst.kept p hlt]
    exact hsecond.going p hp
  · exact hfirst.going p hge

/-- One part before another, which was put first. -/
theorem Puts.before (hfirst : Puts cs middle whole start entry R)
    (hsecond : Puts cs instrs middle entry next S) :
    Puts cs instrs whole start next fun i k => ∃ j, R i j ∧ S j k where
  size_le := Nat.le_trans hsecond.size_le hfirst.size_le
  kept p hp := by
    have hle := hsecond.size_le
    rw [hfirst.kept p (by omega), hsecond.kept p hp]
  going := hfirst.going_from hsecond
  start_lt := hfirst.start_lt
  realises {code} hholds := by
    have hle := hsecond.size_le
    have hle' := hfirst.size_le
    have hfront := hfirst.realises (hholds.front hle)
    have hback := hsecond.realises (hholds.back hfirst)
    constructor
    · intro n i q k hout hwalk
      obtain ⟨m, hm, j, hij, hwalk⟩ := hfront.leave (by omega) hwalk
      obtain ⟨m', hm', l, hjl, hwalk⟩ := hback.leave (by omega) hwalk
      exact ⟨m', by omega, l, ⟨j, hij, hjl⟩, hwalk⟩
    · rintro i k ⟨j, hij, hjk⟩
      obtain ⟨n, hwalk⟩ := hfront.cross hij
      obtain ⟨m, hwalk'⟩ := hback.cross hjk
      exact ⟨n + m, hwalk.trans hwalk'⟩

/-- A fork of two parts before one instruction. -/
theorem Puts.fork {a b : Nat} (hsecond : Puts cs instrs middle b next S)
    (hfirst : Puts cs middle whole a next R) (greedy : Bool) :
    Puts cs instrs (whole.push (branch greedy a b)) whole.size next fun i j => R i j ∨ S i j where
  size_le := by
    have hle := hsecond.size_le
    have hle' := hfirst.size_le
    rw [Array.size_push]
    omega
  kept p hp := by
    have hle := hsecond.size_le
    have hle' := hfirst.size_le
    rw [getElem?_push_of_lt _ (by omega), hfirst.kept p (by omega), hsecond.kept p hp]
  going := going_push (hfirst.going_from hsecond) (branch_ne_accept _ _ _)
  start_lt := by simp
  realises {code} hholds := by
    have hle := hsecond.size_le
    have hle' := hfirst.size_le
    have hcode := hholds.last (by omega)
    have hwhole : HoldsFrom code whole instrs.size := fun p hlo hhi => by
      rw [hholds p hlo (by rw [Array.size_push]; omega), getElem?_push_of_lt _ hhi]
    have hfront := hfirst.realises (hwhole.front hle)
    have hback := hsecond.realises (hwhole.back hfirst)
    constructor
    · intro n i q k hout hwalk
      rw [Array.size_push] at hout
      obtain ⟨m, p, j, rfl, hgoes, hrest⟩ := hwalk.cases_ne hcode (by omega)
      obtain ⟨rfl | rfl, rfl⟩ := goes_branch.mp hgoes
      · obtain ⟨m', hm, l, hl, hlast⟩ := hfront.leave (by omega) hrest
        exact ⟨m', by omega, l, .inl hl, hlast⟩
      · obtain ⟨m', hm, l, hl, hlast⟩ := hback.leave (by omega) hrest
        exact ⟨m', by omega, l, .inr hl, hlast⟩
    · rintro i j (hij | hij)
      · obtain ⟨n, hwalk⟩ := hfront.cross hij
        exact ⟨1 + n, (Walk.of_goes hcode (goes_branch.mpr ⟨.inl rfl, rfl⟩)).trans hwalk⟩
      · obtain ⟨n, hwalk⟩ := hback.cross hij
        exact ⟨1 + n, (Walk.of_goes hcode (goes_branch.mpr ⟨.inr rfl, rfl⟩)).trans hwalk⟩

/-- A part that may be passed by. -/
theorem Puts.maybe {body : Nat} (hnext : next < instrs.size)
    (h : Puts cs instrs whole body next R) (greedy : Bool) :
    Puts cs instrs (whole.push (branch greedy body next)) whole.size next
      fun i j => R i j ∨ i = j :=
  (puts_nothing hnext).fork h greedy

/-! ## Loops -/

/-- The stretches of some number of rounds. -/
def SomeRounds (R : Nat → Nat → Prop) (i j : Nat) : Prop :=
  ∃ count, Rounds R count i j

/-- The stretches of one round or more. -/
def MoreRounds (R : Nat → Nat → Prop) (i k : Nat) : Prop :=
  ∃ j, R i j ∧ SomeRounds R j k

theorem moreRounds_or_eq {i j : Nat} : MoreRounds R i j ∨ i = j ↔ SomeRounds R i j := by
  constructor
  · rintro (⟨k, hik, count, hrounds⟩ | rfl)
    · exact ⟨count + 1, k, hik, hrounds⟩
    · exact ⟨0, rfl⟩
  · rintro ⟨count, hrounds⟩
    cases count with
    | zero => exact .inr hrounds
    | succ count =>
      obtain ⟨k, hik, hrest⟩ := hrounds
      exact .inl ⟨k, hik, count, hrest⟩

/-- The rounds of a loop: from where they fork, the body leads back, and the other way on. -/
theorem Realises.star {code : Array Instr} {again hi body : Nat} {greedy : Bool}
    (h : Realises cs code (again + 1) hi body again R) (hagain : again < hi)
    (hcode : code[again]? = some (branch greedy body next)) :
    Realises cs code again hi again next (SomeRounds R) where
  leave {n i q k} hout hwalk := by
    -- Each round takes at least the step out of the fork, so the walk gets shorter.
    induction n using Nat.strongRecOn generalizing i with
    | ind n ih =>
      obtain ⟨m, p, j, rfl, hgoes, hrest⟩ := hwalk.cases_ne hcode (by omega)
      obtain ⟨hp, rfl⟩ := goes_branch.mp hgoes
      rcases hp with rfl | rfl
      · obtain ⟨m', hm, l, hl, hback⟩ := h.leave (by omega) hrest
        obtain ⟨m'', hm', t, ⟨count, hrounds⟩, hlast⟩ := ih m' (by omega) hback
        exact ⟨m'', by omega, t, ⟨count + 1, l, hl, hrounds⟩, hlast⟩
      · exact ⟨m, by omega, j, ⟨0, rfl⟩, hrest⟩
  cross {i j} := by
    rintro ⟨count, hrounds⟩
    induction count generalizing i with
    | zero =>
      obtain rfl : i = j := hrounds
      exact ⟨1, .of_goes hcode (goes_branch.mpr ⟨.inr rfl, rfl⟩)⟩
    | succ count ih =>
      obtain ⟨l, hl, hrest⟩ := hrounds
      obtain ⟨n, hbody⟩ := h.cross hl
      obtain ⟨m, hlast⟩ := ih hrest
      have hfork : Walk cs code 1 again i body i :=
        .of_goes hcode (goes_branch.mpr ⟨.inl rfl, rfl⟩)
      exact ⟨1 + n + m, (hfork.trans hbody).trans hlast⟩

/-- A loop that is entered at its body has a first round. -/
theorem Realises.plus {code : Array Instr} {again hi body : Nat}
    (h : Realises cs code (again + 1) hi body again R)
    (hstar : Realises cs code again hi again next (SomeRounds R)) :
    Realises cs code again hi body next (MoreRounds R) where
  leave hout hwalk := by
    obtain ⟨m, hm, j, hj, hback⟩ := h.leave (by omega) hwalk
    obtain ⟨m', hm', l, hl, hlast⟩ := hstar.leave hout hback
    exact ⟨m', by omega, l, ⟨j, hj, hl⟩, hlast⟩
  cross := by
    rintro i k ⟨j, hj, hrounds⟩
    obtain ⟨n, hbody⟩ := h.cross hj
    obtain ⟨m, hlast⟩ := hstar.cross hrounds
    exact ⟨n + m, hbody.trans hlast⟩

theorem getElem?_set_ne {instr : Instr} {again p : Nat} (hne : p ≠ again) :
    (whole.set! again instr)[p]? = whole[p]? := by
  rw [Array.set!_eq_setIfInBounds, Array.getElem?_setIfInBounds_ne hne.symm]

/-- The body of a loop is put behind a fork that is filled in afterwards. -/
theorem Puts.loop {body : Nat} {greedy : Bool} {blank : Instr}
    (h : Puts cs (instrs.push blank) middle body instrs.size R)
    (hwhole : whole = middle.set! instrs.size (branch greedy body next)) :
    Puts cs instrs whole instrs.size next (SomeRounds R) ∧
      Puts cs instrs whole body next (MoreRounds R) := by
  have hle := h.size_le
  rw [Array.size_push] at hle
  have hsize : whole.size = middle.size := by rw [hwhole, Array.size_set!]
  have hkept (p : Nat) (hp : p < instrs.size) : whole[p]? = instrs[p]? := by
    rw [hwhole, getElem?_set_ne (by omega), h.kept p (by rw [Array.size_push]; omega),
      getElem?_push_of_lt _ hp]
  have hrealises {code : Array Instr} (hholds : HoldsFrom code whole instrs.size) :
      Realises cs code (instrs.size + 1) whole.size body instrs.size R ∧
        Realises cs code instrs.size whole.size instrs.size next (SomeRounds R) := by
    have hbody : HoldsFrom code middle (instrs.push blank).size := fun p hlo hhi => by
      rw [Array.size_push] at hlo
      rw [hholds p (by omega) (by omega), hwhole, getElem?_set_ne (by omega)]
    have hcode : code[instrs.size]? = some (branch greedy body next) := by
      rw [hholds _ (Nat.le_refl _) (by omega), hwhole, Array.set!_eq_setIfInBounds,
        Array.getElem?_setIfInBounds_self_of_lt (by omega)]
    have hround := h.realises hbody
    rw [Array.size_push, ← hsize] at hround
    exact ⟨hround, hround.star (by omega) hcode⟩
  have hgoing (p : Nat) (hp : instrs.size ≤ p) : whole[p]? ≠ some .accept := by
    rcases Nat.eq_or_lt_of_le hp with rfl | hlt
    · rw [hwhole, Array.set!_eq_setIfInBounds, Array.getElem?_setIfInBounds_self_of_lt (by omega)]
      exact fun heq => branch_ne_accept _ _ _ (Option.some.inj heq)
    · rw [hwhole, getElem?_set_ne (by omega)]
      exact h.going p (by rw [Array.size_push]; omega)
  have hstart := h.start_lt
  constructor
  · exact ⟨by omega, hkept, hgoing, by omega, fun hholds => (hrealises hholds).2⟩
  · exact ⟨by omega, hkept, hgoing, by omega,
      fun hholds => (hrealises hholds).1.plus (hrealises hholds).2⟩

/-! ## Copies -/

/-- A part a number of times. -/
theorem Implements.times {part : Emit} (h : Implements cs part R) (count : Nat) :
    Implements cs (emitTimes part count) (Rounds R count) := by
  intro next instrs whole start hnext hemit
  induction count generalizing next instrs with
  | zero =>
    obtain ⟨rfl, rfl⟩ := Prod.mk.inj hemit
    exact puts_nothing hnext
  | succ count ih =>
    cases hpart : part next instrs with
    | mk entry middle =>
      rw [emitTimes, hpart] at hemit
      have hlast := h hnext hpart
      exact ((ih hlast.start_lt hemit).before hlast).congr fun i k => rounds_succ_iff.symm

/-- At most a number of rounds, then a stretch of `S`, unless a round is left out. -/
def UpToRounds (R S : Nat → Nat → Prop) (count i j : Nat) : Prop :=
  (∃ fewer < count, Rounds R fewer i j) ∨ ∃ k, Rounds R count i k ∧ S k j

theorem upToRounds_succ_iff {count i j : Nat} :
    UpToRounds R (fun k j => (∃ l, R k l ∧ S l j) ∨ k = j) count i j ↔
      UpToRounds R S (count + 1) i j := by
  constructor
  · rintro (⟨fewer, hlt, hrounds⟩ | ⟨k, hrounds, ⟨l, hl, hj⟩ | rfl⟩)
    · exact .inl ⟨fewer, by omega, hrounds⟩
    · exact .inr ⟨l, rounds_succ_iff.mpr ⟨k, hrounds, hl⟩, hj⟩
    · exact .inl ⟨count, by omega, hrounds⟩
  · rintro (⟨fewer, hlt, hrounds⟩ | ⟨l, hrounds, hj⟩)
    · rcases Nat.lt_or_ge fewer count with hfewer | hall
      · exact .inl ⟨fewer, hfewer, hrounds⟩
      · obtain rfl : fewer = count := by omega
        exact .inr ⟨j, hrounds, .inr rfl⟩
    · obtain ⟨k, hrest, hl⟩ := rounds_succ_iff.mp hrounds
      exact .inr ⟨k, hrest, .inl ⟨l, hl, hj⟩⟩

theorem upToRounds_eq_iff {count i j : Nat} :
    UpToRounds R (fun k j => k = j) count i j ↔ ∃ number ≤ count, Rounds R number i j := by
  constructor
  · rintro (⟨fewer, hlt, hrounds⟩ | ⟨k, hrounds, rfl⟩)
    · exact ⟨fewer, by omega, hrounds⟩
    · exact ⟨count, Nat.le_refl _, hrounds⟩
  · rintro ⟨number, hle, hrounds⟩
    rcases Nat.lt_or_eq_of_le hle with hlt | rfl
    · exact .inl ⟨number, hlt, hrounds⟩
    · exact .inr ⟨j, hrounds, rfl⟩

/-- A part at most a number of times, before what leads to the place that is past all of them. -/
theorem Puts.optional {part : Emit} (h : Implements cs part R) {greedy : Bool} {count : Nat}
    (hnext : next < instrs.size) (htail : Puts cs instrs middle entry next S)
    (hemit : emitOptional part greedy next count entry middle = (start, whole)) :
    Puts cs instrs whole start next (UpToRounds R S count) := by
  induction count generalizing middle entry S with
  | zero =>
    obtain ⟨rfl, rfl⟩ := Prod.mk.inj hemit
    refine htail.congr fun i j => ?_
    simp [UpToRounds, Rounds]
  | succ count ih =>
    cases hpart : part entry middle with
    | mk body more =>
      rw [emitOptional, hpart] at hemit
      have hround := ((h htail.start_lt hpart).before htail).maybe hnext greedy
      exact (ih hround hemit).congr fun i j => upToRounds_succ_iff

/-- What `emitLoop` puts: a loop that may be entered where its rounds fork, or at its body. -/
theorem puts_emitLoop {part : Emit} (h : Implements cs part R) {greedy : Bool} {again body : Nat}
    (hemit : emitLoop part greedy next instrs = (again, body, whole)) :
    Puts cs instrs whole again next (SomeRounds R) ∧
      Puts cs instrs whole body next (MoreRounds R) := by
  unfold emitLoop at hemit
  dsimp only at hemit
  cases hpart : part instrs.size (instrs.push (.fork next next)) with
  | mk start middle =>
    rw [hpart] at hemit
    obtain ⟨rfl, hrest⟩ := Prod.mk.inj hemit
    obtain ⟨rfl, rfl⟩ := Prod.mk.inj hrest
    have hlt : instrs.size < (instrs.push (.fork next next)).size := by simp
    exact (h hlt hpart).loop rfl

end

/-! ## Expressions -/

section

variable {cs : List Char} {first second body : Node}

theorem implements_one (set : CharSet) :
    Implements cs (Node.one set).emit ((Node.one set).Spans cs) := by
  intro next instrs whole start hnext hemit
  obtain ⟨rfl, rfl⟩ := Prod.mk.inj hemit
  refine puts_push Instr.noConfusion fun i p j => ⟨?_, ?_⟩
  · rintro ⟨hc, hset⟩
    exact ⟨rfl, ⟨_, hc, hset⟩, rfl⟩
  · rintro ⟨rfl, ⟨c, hc, hset⟩, rfl⟩
    exact .one hc hset

theorem implements_look (condition : Look) :
    Implements cs (Node.look condition).emit ((Node.look condition).Spans cs) := by
  intro next instrs whole start hnext hemit
  obtain ⟨rfl, rfl⟩ := Prod.mk.inj hemit
  refine puts_push Instr.noConfusion fun i p j => ⟨?_, ?_⟩
  · intro h
    cases h with
    | look hholds => exact ⟨rfl, hholds, rfl⟩
  · rintro ⟨rfl, hholds, rfl⟩
    exact .look hholds

/-- A position that is remembered. -/
theorem puts_mark (slot : Nat) (instrs : Array Instr) (next : Nat) :
    Puts cs instrs (instrs.push (.mark slot next)) instrs.size next fun i j => i = j := by
  refine puts_push Instr.noConfusion fun i p j => ⟨?_, ?_⟩
  · intro h
    cases h with
    | mark => exact ⟨rfl, rfl⟩
  · rintro ⟨rfl, rfl⟩
    exact .mark

theorem Implements.group (h : Implements cs body.emit (body.Spans cs)) (index : Nat)
    (name : Option String) :
    Implements cs (Node.group index name body).emit ((Node.group index name body).Spans cs) := by
  intro next instrs whole start hnext hemit
  cases name with
  | none => exact h hnext hemit
  | some name =>
    have hstop : Puts cs instrs _ _ next _ := puts_mark (slotOf index true) instrs next
    dsimp only [Node.emit] at hemit
    cases hbody : body.emit instrs.size (instrs.push (.mark (slotOf index true) next)) with
    | mk entry middle =>
      rw [hbody] at hemit
      obtain ⟨rfl, rfl⟩ := Prod.mk.inj hemit
      have hinner := (h hstop.start_lt hbody).before hstop
      refine ((puts_mark (slotOf index false) middle entry).before hinner).congr fun i j => ?_
      simp [Node.Spans]

theorem Implements.cat (hfirst : Implements cs first.emit (first.Spans cs))
    (hsecond : Implements cs second.emit (second.Spans cs)) :
    Implements cs (Node.cat first second).emit ((Node.cat first second).Spans cs) := by
  intro next instrs whole start hnext hemit
  dsimp only [Node.emit] at hemit
  cases hback : second.emit next instrs with
  | mk entry middle =>
    rw [hback] at hemit
    have hlast := hsecond hnext hback
    exact (hfirst hlast.start_lt hemit).before hlast

theorem Implements.alt (hfirst : Implements cs first.emit (first.Spans cs))
    (hsecond : Implements cs second.emit (second.Spans cs)) :
    Implements cs (Node.alt first second).emit ((Node.alt first second).Spans cs) := by
  intro next instrs whole start hnext hemit
  dsimp only [Node.emit] at hemit
  cases hback : second.emit next instrs with
  | mk b middle =>
    cases hfront : first.emit next middle with
    | mk a more =>
      rw [hback] at hemit
      dsimp only at hemit
      rw [hfront] at hemit
      obtain ⟨rfl, rfl⟩ := Prod.mk.inj hemit
      have hputs := hsecond hnext hback
      exact hputs.fork (hfirst (Nat.lt_of_lt_of_le hnext hputs.size_le) hfront) true

/-- A loop with a greatest number of rounds: the least number, then up to as many as are left. -/
theorem spans_bounded_iff {least most i j : Nat} {greedy : Bool} :
    (∃ k, Rounds (body.Spans cs) least i k ∧
      UpToRounds (body.Spans cs) (fun k j => k = j) (most - least) k j) ↔
      (Node.loop least (some most) greedy body).Spans cs i j := by
  simp only [upToRounds_eq_iff, Node.Spans, Option.mem_some_iff, forall_eq']
  constructor
  · rintro ⟨k, hleast, number, hle, hmore⟩
    exact ⟨least + number, by omega, by omega, hleast.append hmore⟩
  · rintro ⟨count, hle, hbound, hrounds⟩
    obtain ⟨more, rfl⟩ := Nat.exists_eq_add_of_le hle
    obtain ⟨k, hleast, hmore⟩ := rounds_add_iff.mp hrounds
    exact ⟨k, hleast, more, by omega, hmore⟩

/-- A loop without a greatest number of rounds: all but the last of the least number, then more. -/
theorem spans_unbounded_iff {least i j : Nat} {greedy : Bool} :
    (∃ k, Rounds (body.Spans cs) least i k ∧ MoreRounds (body.Spans cs) k j) ↔
      (Node.loop (least + 1) none greedy body).Spans cs i j := by
  simp only [Node.Spans, Option.not_mem_none, false_implies, implies_true, true_and]
  constructor
  · rintro ⟨k, hleast, l, hl, number, hmore⟩
    exact ⟨least + (number + 1), by omega, hleast.append ⟨l, hl, hmore⟩⟩
  · rintro ⟨count, hle, hrounds⟩
    obtain ⟨more, rfl⟩ : ∃ more, count = least + (more + 1) := ⟨count - least - 1, by omega⟩
    obtain ⟨k, hleast, l, hl, hmore⟩ := rounds_add_iff.mp hrounds
    exact ⟨k, hleast, l, hl, more, hmore⟩

theorem Implements.loop (h : Implements cs body.emit (body.Spans cs)) (least : Nat)
    (most : Option Nat) (greedy : Bool) :
    Implements cs (Node.loop least most greedy body).emit
      ((Node.loop least most greedy body).Spans cs) := by
  intro next instrs whole start hnext hemit
  cases most with
  | some most =>
    dsimp only [Node.emit] at hemit
    cases hoptional : emitOptional body.emit greedy next (most - least) next instrs with
    | mk entry middle =>
      rw [hoptional] at hemit
      have hfew := Puts.optional h hnext (puts_nothing hnext) hoptional
      have hall := (h.times least hfew.start_lt hemit).before hfew
      exact hall.congr fun i j => spans_bounded_iff
  | none =>
    cases hloop : emitLoop body.emit greedy next instrs with
    | mk again rest =>
      obtain ⟨entry, middle⟩ := rest
      obtain ⟨hstar, hplus⟩ := puts_emitLoop h hloop
      cases least with
      | zero =>
        have hspans (i j : Nat) : SomeRounds (body.Spans cs) i j ↔
            (Node.loop 0 none greedy body).Spans cs i j := by
          simp [SomeRounds, Node.Spans]
        dsimp only [Node.emit] at hemit
        rw [hloop] at hemit
        dsimp only at hemit
        split at hemit
        · obtain ⟨rfl, rfl⟩ := Prod.mk.inj hemit
          exact hstar.congr hspans
        · obtain ⟨rfl, rfl⟩ := Prod.mk.inj hemit
          refine (Puts.maybe hnext hplus greedy).congr fun i j => ?_
          exact moreRounds_or_eq.trans (hspans i j)
      | succ least =>
        dsimp only [Node.emit] at hemit
        rw [hloop] at hemit
        have hall := (h.times least hplus.start_lt hemit).before hplus
        exact hall.congr fun i j => spans_unbounded_iff

end

/-- **An expression is emitted as instructions that match what it matches.** -/
theorem implements_emit (cs : List Char) (node : Node) :
    Implements cs node.emit (node.Spans cs) := by
  induction node with
  | empty =>
    intro next instrs whole start hnext hemit
    obtain ⟨rfl, rfl⟩ := Prod.mk.inj hemit
    exact puts_nothing hnext
  | one set => exact implements_one set
  | look condition => exact implements_look condition
  | group index name body ih => exact ih.group index name
  | cat first second ihfirst ihsecond => exact ihfirst.cat ihsecond
  | alt first second ihfirst ihsecond => exact ihfirst.alt ihsecond
  | loop least most greedy body ih => exact ih.loop least most greedy

/-! ## Programs -/

/-- The program of an expression accepts at its first instruction, which is put there before all
others, and its own instructions match what the expression matches. -/
theorem puts_program (cs : List Char) (node : Node) :
    Puts cs #[.accept] node.program.instrs node.program.start 0 (node.Spans cs) := by
  cases hemit : node.emit 0 #[.accept] with
  | mk start whole =>
    have hputs := implements_emit cs node (by simp) hemit
    have hprogram : node.program = ⟨whole, start⟩ := by rw [Node.program, hemit]
    rwa [hprogram]

theorem program_accept_iff {node : Node} {p : Nat} :
    node.program.instrs[p]? = some .accept ↔ p = 0 := by
  have hputs := puts_program [] node
  refine ⟨fun h => ?_, ?_⟩
  · by_contra hne
    exact hputs.going p (by simp; omega) h
  · rintro rfl
    exact hputs.kept 0 (by simp)

/-- **The walks through the program of an expression** lead over the stretches that it matches. -/
theorem walk_program_iff {cs : List Char} {node : Node} {i k : Nat} :
    (∃ n, Walk cs node.program.instrs n node.program.start i 0 k) ↔ node.Spans cs i k := by
  have hrealises := (puts_program cs node).realises fun _ _ _ => rfl
  refine ⟨?_, hrealises.cross⟩
  rintro ⟨n, hwalk⟩
  obtain ⟨m, -, j, hspans, hrest⟩ := hrealises.leave (.inl (by simp)) hwalk
  cases hrest with
  | here => exact hspans
  | step hcode hgoes _ =>
    obtain rfl := Option.some.inj (hcode.symm.trans (program_accept_iff.mpr rfl))
    cases hgoes

end Folio.Pattern
