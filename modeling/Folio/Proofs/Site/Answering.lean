import Folio.Proofs.Render.Depth
import Folio.Site.Dispatch

/-!
# Answers at any depth

A request is served as deep as it needs. What it is answered is what it is answered at every depth
at which nothing is cut short, and it has no answer only where it is cut short at every depth.

* `Site.handle_within`: how deep a request may nest changes only whether it is cut short.
* `Render.outcome?_eq_none_iff`, `Render.Within.outcome?`: outcomes at different depths.
* **`Shared.settle_eq_some_iff`**, `Site.answer_eq_some_iff`: the answer is that of some depth.
-/

namespace Folio

/-! ## Outcomes -/

section Outcome

variable {α : Type} {sink : Sink} {shared : Shared}

theorem Ending.ofResult?_eq_none_iff {result : Except Failure α} :
    Ending.ofResult? result = none ↔ result = .error .tooDeep := by
  rcases result with (_ | _ | _) | _ <;> simp [ofResult?]

theorem Render.outcome?_eq (render : Render α) (sink : Sink) (shared : Shared) :
    let run := render { shared := shared, sink := sink }
    render.outcome? sink shared = (Ending.ofResult? run.1).map fun ending =>
      ({ ending := ending, body := run.2.sink.text, journal := run.2.journal.reverse,
         measurements := run.2.measurements.reverse }, run.2.shared) := rfl

/-- There is no outcome exactly where something is cut short. -/
theorem Render.outcome?_eq_none_iff {render : Render α} :
    render.outcome? sink shared = none ↔
      (render { shared := shared, sink := sink }).1 = .error .tooDeep := by
  rw [outcome?_eq, Option.map_eq_none_iff, Ending.ofResult?_eq_none_iff]

/-- An outcome is the same at every greater depth. -/
theorem Render.Within.outcome? {x deeper : Render α} (h : x.Within deeper)
    {outcome : Outcome α × Shared} (hx : x.outcome? sink shared = some outcome) :
    deeper.outcome? sink shared = some outcome := by
  have hdeep : (x { shared := shared, sink := sink }).1 ≠ .error .tooDeep := by
    rw [Ne, ← Render.outcome?_eq_none_iff, hx]
    exact nofun
  rw [← hx, outcome?_eq, outcome?_eq, h.eq hdeep]

/-- **What settles is the outcome at some depth**, whichever depth is tried first. -/
theorem Shared.settle_eq_some_iff {render : Nat → Render α}
    (h : ∀ {depth more}, depth ≤ more → (render depth).Within (render more)) {first : Nat}
    {outcome : Outcome α × Shared} :
    shared.settle render sink first = some outcome ↔
      ∃ depth, (render depth).outcome? sink shared = some outcome := by
  constructor
  · refine settle.partial_correctness shared render sink
      (fun _ outcome => ∃ depth, (render depth).outcome? sink shared = some outcome) ?_ first
      outcome
    intro next ih depth outcome hsettles
    dsimp only at hsettles
    split at hsettles
    · exact ⟨depth, hsettles⟩
    · exact ih _ outcome hsettles
  · rintro ⟨depth, hdepth⟩
    -- Each failing try doubles the depth, so the gap to `depth` closes.
    induction hgap : depth - first using Nat.strongRecOn generalizing first with
    | ind gap ih =>
      rw [settle]
      cases hfirst : (render first).outcome? sink shared with
      | some found =>
        rcases Nat.le_total first depth with hle | hle
        · exact ((h hle).outcome? hfirst).symm.trans hdepth
        · exact hfirst.symm.trans ((h hle).outcome? hdepth)
      | none =>
        have hlt : first < depth := by
          by_contra hle
          rw [(h (Nat.le_of_not_lt hle)).outcome? hdepth] at hfirst
          cases hfirst
        exact ih _ (by omega) rfl

/-- Two outcomes at any depths are the same. -/
theorem Render.outcome?_unique {render : Nat → Render α}
    (h : ∀ {depth more}, depth ≤ more → (render depth).Within (render more)) {depth more : Nat}
    {outcome other : Outcome α × Shared}
    (hdepth : (render depth).outcome? sink shared = some outcome)
    (hmore : (render more).outcome? sink shared = some other) : outcome = other := by
  rcases Nat.le_total depth more with hle | hle
  · exact Option.some.inj (((h hle).outcome? hdepth).symm.trans hmore)
  · exact Option.some.inj (hdepth.symm.trans ((h hle).outcome? hmore))

end Outcome

namespace Site

variable (site : Site) (request : Request)

theorem serve_within {depth more : Nat} (h : depth ≤ more)
    (found : Destination (Descriptor Builder)) :
    (site.serve depth request found).Within (site.serve more request found) := by
  have hbuild (builder : Builder) :=
    (Render.Within.congruence (site.context request)).builder
      (Inner.level_within (site.context request) h) builder 0
  unfold serve
  dsimp only
  split
  case isTrue =>
    exact .bind (.refl _) fun _ => .bind (.refl _) fun builder =>
      .bind (hbuild builder) fun _ => .refl _
  case isFalse => exact .bind (.refl _) fun builder => .bind (hbuild builder) fun _ => .refl _

/-- **How deep a request may nest changes only whether it is cut short.** -/
theorem handle_within {depth more : Nat} (h : depth ≤ more) :
    (site.handle depth request).Within (site.handle more request) := by
  unfold handle
  split
  · exact .refl _
  · exact .bind (site.serve_within request h _) fun _ => .refl _

variable {site request} {sink : Sink} {shared : Shared}
  {answer : Outcome (Option Dispatch) × Shared}

/-- **An answer is an outcome at some depth.** -/
theorem answer_eq_some_iff :
    site.answer request sink shared = some answer ↔
      ∃ depth, (site.handle depth request).outcome? sink shared = some answer :=
  Shared.settle_eq_some_iff (site.handle_within request)

/-- Only what is cut short at every depth has no answer. -/
theorem answer_eq_none_iff :
    site.answer request sink shared = none ↔
      ∀ depth, (site.handle depth request { shared := shared, sink := sink }).1 =
        .error .tooDeep := by
  simp only [Option.eq_none_iff_forall_ne_some, ne_eq, answer_eq_some_iff, not_exists,
    ← Render.outcome?_eq_none_iff]
  exact forall_comm

end Site

end Folio
