import Folio.Proofs.Render.Congruence

/-!
# The bound of nesting

How deep components may be nested is bounded, and a rendering that is nested deeper is cut short.
The bound does not change what is rendered: under a greater one the same is done, unless the smaller
one cut it short.

* **`Render.Within`**: the second rendering does the same as the first, unless that is cut short.
* `Render.Within.congruence`: this respects sequence, errors and the single steps.
* **`Inner.level_within`**: so do the levels of nesting.
-/

namespace Folio

/-- `deeper` does the same as `x`, unless `x` is cut short for being nested too deep. -/
def Render.Within {α : Type} (x deeper : Render α) : Prop :=
  ∀ start, (x start).1 = .error .tooDeep ∨ deeper start = x start

namespace Render.Within

variable {α β : Type}

theorem refl (x : Render α) : x.Within x := fun _ => .inr rfl

theorem tooDeep (x : Render α) : (throw .tooDeep : Render α).Within x := fun _ => .inl rfl

/-- What is not cut short is the same at every greater depth. -/
theorem eq {x deeper : Render α} (h : x.Within deeper) {start : Rendering}
    (hx : (x start).1 ≠ .error .tooDeep) : deeper start = x start :=
  (h start).resolve_left hx

theorem bind {x y : Render α} {f g : α → Render β} (hxy : x.Within y)
    (hfg : ∀ a, (f a).Within (g a)) : (x >>= f).Within (y >>= g) := by
  intro start
  rw [bind_apply, bind_apply]
  rcases hxy start with hdeep | hsame
  · left
    revert hdeep
    rcases x start with ⟨_ | _, next⟩
    · rintro ⟨⟩
      rfl
    · exact nofun
  · rw [hsame]
    rcases x start with ⟨_ | a, next⟩
    · exact .inr rfl
    · exact hfg a next

theorem attempt {x y : Render α} (hxy : x.Within y) :
    (Render.attempt x).Within (Render.attempt y) := by
  intro start
  unfold Render.attempt
  rcases hxy start with hdeep | hsame
  · left
    revert hdeep
    rcases x start with ⟨_ | _, next⟩
    · rintro ⟨⟩
      rfl
    · exact nofun
  · rw [hsame]
    exact .inr rfl

theorem capture {x y : Render Unit} (hxy : x.Within y) :
    (Render.capture x).Within (Render.capture y) := by
  intro start
  unfold Render.capture
  rcases hxy.attempt { start with sink := {} } with hdeep | hsame
  · left
    revert hdeep
    rcases Render.attempt x { start with sink := {} } with ⟨outcome, next⟩
    rintro ⟨⟩
    rfl
  · rw [hsame]
    exact .inr rfl

/-- The relation is a congruence. -/
theorem congruence (context : Context) :
    RenderRel.Congruence (fun _ x deeper => x.Within deeper) context where
  bind := bind
  attempt := attempt
  capture := capture
  ofExcept _ := refl _
  write _ := refl _
  note _ := refl _
  measure _ := refl _
  openTemplate _ := refl _
  constructView _ _ := refl _
  constructBuilder _ _ := refl _
  answerRegistered hfg tag := by
    refine bind (refl _) fun start => ?_
    cases start.shared.builders.get? tag with
    | none => exact refl _
    | some descriptor => exact bind (refl _) fun _ => bind (refl _) hfg

end Render.Within

/-- Components are rendered alike, unless they are cut short. -/
abbrev Inner.Within (inner deeper : Inner) : Prop :=
  Inner.Related (fun _ x deeper => x.Within deeper) inner deeper

/-- **A greater bound of nesting changes only what a smaller one cuts short.** -/
theorem Inner.level_within (context : Context) {depth more : Nat} (h : depth ≤ more) :
    (Inner.level context depth).Within (Inner.level context more) := by
  induction depth generalizing more with
  | zero => exact ⟨fun _ => .tooDeep _, fun _ _ => .tooDeep _⟩
  | succ depth ih =>
    obtain ⟨more, rfl⟩ := Nat.exists_eq_add_of_le' (Nat.le_trans (Nat.succ_pos depth) h)
    have hinner := ih (Nat.le_of_succ_le_succ h)
    have hwithin := Render.Within.congruence context
    exact ⟨hwithin.view hinner, hwithin.builder hinner⟩

end Folio
