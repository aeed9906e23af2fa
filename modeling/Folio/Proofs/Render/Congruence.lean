import Folio.Proofs.Registry.Lookup
import Folio.Proofs.Render.Running
import Mathlib.Data.List.Induction

/-!
# Congruences of renderings

Much that is said of renderings is a relation between two of them: that one goes on where the other
ends, or that both look alike. If such a relation respects sequence, the handling of errors and the
single steps, then it respects all that views, pages and builders do, whatever their programs are.

* **`RenderRel.Congruence`**: relations that respect sequence, errors and the single steps.
* `Congruence.answerEvents`, `Congruence.scanTemplate`: they respect templates.
* **`Congruence.run`**: they respect programs.
* `Congruence.view`, `Congruence.page`, **`Congruence.builder`**: they respect views, pages and
  builders, and `Congruence.level` what these refer to.
-/

namespace Folio

/-- Relations between renderings with results of the same type. -/
abbrev RenderRel := (α : Type) → Render α → Render α → Prop

/-- Answer a tag with the builder that is registered under it, if there is one. -/
def Render.answerRegistered (context : Context) (build : Builder → Render Unit) (tag : String) :
    Render Unit := do
  match (← get).shared.builders.get? tag with
  | none => pure ()
  | some descriptor =>
    measure (.nestedBuild .registry)
    build (← constructFrom descriptor { request := context.request })

theorem Render.answerRegistered_apply (context : Context) (build : Builder → Render Unit)
    (tag : String) (start : Rendering) :
    answerRegistered context build tag start =
      (match start.shared.builders.get? tag with
        | none => pure ()
        | some descriptor => do
          measure (.nestedBuild .registry)
          build (← constructFrom descriptor { request := context.request })
        : Render Unit) start := by
  rw [answerRegistered, bind_apply,
    show (get : Render Rendering) start = (.ok start, start) from rfl]

/-- **Relations that respect sequence, the handling of errors and the single steps of
rendering.** -/
structure RenderRel.Congruence (R : RenderRel) (context : Context) : Prop where
  bind {α β : Type} {x y : Render α} {f g : α → Render β} (hxy : R α x y)
    (hfg : ∀ a, R β (f a) (g a)) : R β (x >>= f) (y >>= g)
  attempt {α : Type} {x y : Render α} (hxy : R α x y) :
    R (Except RenderError α) (Render.attempt x) (Render.attempt y)
  capture {x y : Render Unit} (hxy : R Unit x y) :
    R (Except RenderError Unit × String) (Render.capture x) (Render.capture y)
  ofExcept {α : Type} (outcome : Except Failure α) :
    R α (Render.ofExcept outcome) (Render.ofExcept outcome)
  write (text : String) : R Unit (Render.write text) (Render.write text)
  note (entry : Note) : R Unit (Render.note entry) (Render.note entry)
  measure (measurement : Measurement) :
    R Unit (Render.measure measurement) (Render.measure measurement)
  openTemplate (name : String) :
    R (List Signal) (Render.openTemplate context name) (Render.openTemplate context name)
  constructView (identifier : String) (model : Option Model) :
    R View (Render.constructView context identifier model)
      (Render.constructView context identifier model)
  constructBuilder (identifier : String) (pathData : PathData) :
    R Builder (Render.constructBuilder context identifier pathData)
      (Render.constructBuilder context identifier pathData)
  answerRegistered {f g : Builder → Render Unit} (hfg : ∀ builder, R Unit (f builder) (g builder))
    (tag : String) :
    R Unit (Render.answerRegistered context f tag) (Render.answerRegistered context g tag)

variable {R : RenderRel} {context : Context}

/-- The components that others refer to are rendered in ways that are related. -/
structure Inner.Related (R : RenderRel) (inner other : Inner) : Prop where
  view : ∀ view, R Unit (inner.view view) (other.view view)
  builder : ∀ builder cycle, R Unit (inner.builder builder cycle) (other.builder builder cycle)

/-- Components of pages that are rendered in ways that are related. -/
inductive Ready.Related (R : RenderRel) : Ready → Ready → Prop
  | view {x y : Render Unit} (h : R Unit x y) : Related R (.view x) (.view y)
  | builder (name : String) {build other : Nat → Render Unit}
    (h : ∀ cycle, R Unit (build cycle) (other cycle)) :
    Related R (.builder name build) (.builder name other)

/-- Pages with the same master template whose tags are answered in ways that are related. -/
structure Page.Related (R : RenderRel) (page other : Page Ready) : Prop where
  master : page.master = other.master
  component : ∀ tag, Option.Rel (Ready.Related R) (page.component? tag) (other.component? tag)

/-! ## Pages -/

namespace Page

variable {κ κ' : Type}

theorem component?_register (page : Page κ) (tag other : String) (component : κ) :
    (page.register tag component).component? other =
      if other = tag then some component else page.component? other := by
  unfold component? register
  dsimp only
  rw [List.find?_append, find?_filter_key, List.find?_singleton]
  by_cases h : other = tag
  · rw [if_pos h, decide_eq_true h.symm]
    exact (if_pos h).symm
  · rw [if_neg h, if_neg h, decide_eq_false (Ne.symm h)]
    exact congrArg (Option.map Prod.snd) Option.or_none

/-- What a page has under a tag after calls was registered by one of them. -/
theorem mem_of_component?_after {calls : List (PageCall κ)} {tag : String} {component : κ}
    (h : (({} : Page κ).after calls).component? tag = some component) :
    .register tag component ∈ calls := by
  induction calls using List.reverseRecOn with
  | nil => cases h
  | append_singleton calls call ih =>
    rw [after, List.foldl_append] at h
    cases call with
    | setMaster source => exact List.mem_append_left _ (ih h)
    | register other found =>
      have hfound := component?_register (({} : Page κ).after calls) other tag found
      rw [show (({} : Page κ).after calls).register other found =
        List.foldl next (calls.foldl next {}) [.register other found] from rfl, h] at hfound
      split at hfound
      · next hsame =>
        cases hfound
        exact List.mem_append_right _ (hsame ▸ List.mem_singleton_self _)
      · exact List.mem_append_left _ (ih hfound.symm)

theorem component?_map (f : κ → κ') (page : Page κ) (tag : String) :
    (page.map f).component? tag = (page.component? tag).map f := by
  simp only [map, component?, List.find?_map, Option.map_map]
  rfl

end Page

/-! ## Components -/

namespace Inner.Related

variable {inner other : Inner} (h : inner.Related R other)

include h

theorem component (component : Made) :
    R Unit (inner.component component) (other.component component) := by
  cases component with
  | view view => exact h.view view
  | builder name built => exact h.builder built.1 built.2

theorem ready (page : Page Made) :
    (page.map (Made.ready inner)).Related R (page.map (Made.ready other)) := by
  refine ⟨rfl, fun tag => ?_⟩
  rw [Page.component?_map, Page.component?_map]
  cases page.component? tag with
  | none => exact .none
  | some component =>
    cases component with
    | view view => exact .some (.view (h.view view))
    | builder name built => exact .some (.builder name fun _ => h.builder built.1 _)

end Inner.Related

namespace RenderRel.Congruence

variable {σ : Type} (hR : R.Congruence context)

include hR

theorem pure {α : Type} (a : α) : R α (pure a) (pure a) := hR.ofExcept (.ok a)

/-! ## Templates -/

theorem answerEvents {f g : TagHandler σ} (h : ∀ tag memory, R σ (f tag memory) (g tag memory))
    (events : List Event) (memory : σ) :
    R σ (Folio.answerEvents Render.write f events memory)
      (Folio.answerEvents Render.write g events memory) := by
  induction events generalizing memory with
  | nil => exact hR.pure memory
  | cons event events ih =>
    cases event with
    | literal text => exact hR.bind (hR.write text) fun _ => ih memory
    | tag name => exact hR.bind (h name memory) ih

theorem scanTemplate (name : String) {f g : TagHandler σ}
    (h : ∀ tag memory, R σ (f tag memory) (g tag memory)) (memory : σ) :
    R Unit (Render.scanTemplate context name f memory)
      (Render.scanTemplate context name g memory) := by
  rw [Render.scanTemplate_eq, Render.scanTemplate_eq]
  exact hR.bind (hR.openTemplate name) fun _ =>
    hR.bind (hR.answerEvents h _ memory) fun _ => hR.ofExcept _

theorem scanInline (text : String) {f g : TagHandler σ}
    (h : ∀ tag memory, R σ (f tag memory) (g tag memory)) (memory : σ) :
    R Unit (Render.scanInline context text f memory)
      (Render.scanInline context text g memory) := by
  rw [Render.scanInline_eq, Render.scanInline_eq]
  exact hR.bind (hR.answerEvents h _ memory) fun _ => hR.pure ()

/-! ## Programs -/

variable {inner other : Inner} (hinner : inner.Related R other)

include hinner

theorem number (made : List Made) (number : Nat) :
    R Unit (inner.number made number) (other.number made number) := by
  unfold Inner.number
  cases made[number]? with
  | none => exact hR.ofExcept (.error .panic)
  | some component => exact hinner.component component

/-- Whatever is asked for, it is answered in ways that are related. -/
theorem answer {writes : Bool} (question : Ask writes) (made : List Made) :
    R (question.Reply × List Made) (question.answer context inner made)
      (question.answer context other made) := by
  cases question with
  | write h text => exact hR.bind (hR.attempt (hR.write text)) fun _ => hR.pure _
  | render h number =>
    exact hR.bind (hR.attempt (hR.number hinner made number)) fun _ => hR.pure _
  | capture number =>
    exact hR.bind (hR.capture (hR.number hinner made number)) fun _ => hR.pure _
  | note entry => exact hR.bind (hR.note entry) fun _ => hR.pure _
  | openTemplate name => exact hR.bind (hR.attempt (hR.openTemplate name)) fun _ => hR.pure _
  | createView identifier model =>
    exact hR.bind (hR.attempt (hR.constructView identifier model)) fun _ => hR.pure _
  | createBuilder identifier pathData =>
    exact hR.bind (hR.attempt (hR.constructBuilder identifier pathData)) fun _ => hR.pure _

/-- **Programs are carried out in ways that are related.** -/
theorem run {writes : Bool} {α : Type} (program : Program View Builder writes α)
    (made : List Made) :
    R (α × List Made) (program.run context inner made) (program.run context other made) := by
  induction program generalizing made with
  | returns value => exact hR.pure (value, made)
  | fails error => exact hR.ofExcept _
  | panics => exact hR.ofExcept _
  | bring component next ih =>
    rw [Program.run, Program.run]
    exact ih _ _
  | ask question next ih =>
    rw [Program.run, Program.run]
    exact hR.bind (hR.answer hinner question made) fun _ => ih _ _

/-! ## Views, pages and builders -/

theorem view (view : View) : R Unit (view.render context inner) (view.render context other) :=
  hR.bind (hR.run hinner (view.program context) []) fun _ => hR.pure ()

theorem answerTag {page more : Page Ready} (h : page.Related R more) (tag : String)
    (seen : List String) :
    R Unit (page.answerTag context inner tag seen) (more.answerTag context other tag seen) := by
  unfold Page.answerTag
  have hcomponent := h.component tag
  revert hcomponent
  cases page.component? tag <;> cases more.component? tag <;> intro hcomponent <;>
    cases hcomponent
  case none.none => exact hR.answerRegistered (fun builder => hinner.builder builder 0) tag
  case some.some h =>
    cases h with
    | view h => exact h
    | builder name h => exact hR.bind (hR.measure _) fun _ => h _

theorem page {page more : Page Ready} (h : page.Related R more) (builder : String) :
    R Unit (page.render context inner builder) (more.render context other builder) := by
  have honTag (tag : String) (seen : List String) :=
    hR.bind (hR.answerTag hinner h tag seen) fun _ => hR.pure (tag :: seen)
  unfold Page.render
  rw [h.master]
  split
  · exact hR.scanTemplate _ honTag _
  · exact hR.scanInline _ honTag _
  · exact hR.ofExcept _

/-- The page of a builder is composed in ways that are related. -/
theorem calls (builder : Builder) (cycle : Nat) :
    R (List (PageCall Made)) (builder.calls context inner cycle)
      (builder.calls context other cycle) := by
  obtain ⟨name, created, prepare, model, compose⟩ := builder
  refine hR.bind (hR.run hinner (prepare context cycle) []) fun prepared => ?_
  refine hR.bind (hR.run hinner (model context cycle prepared.1) prepared.2) fun modelled => ?_
  refine hR.bind (hR.run hinner (compose context cycle modelled.1.1 modelled.1.2) modelled.2)
    fun composed => ?_
  obtain ⟨calls, made⟩ := composed
  dsimp only
  cases calls.mapM (PageCall.fetch? made) with
  | none => exact hR.ofExcept (.error .panic)
  | some calls => exact hR.pure _

/-- **Builders are built in ways that are related.** -/
theorem builder (builder : Builder) (cycle : Nat) :
    R Unit (builder.build context inner cycle) (builder.build context other cycle) :=
  hR.bind (hR.bind (hR.calls hinner builder cycle) fun _ => hR.pure _) fun page =>
    hR.page hinner (hinner.ready page) builder.name

omit hinner

/-- What is referred to is related to itself, however deep it may be nested. -/
theorem level (depth : Nat) :
    (Inner.level context depth).Related R (Inner.level context depth) := by
  induction depth with
  | zero => exact ⟨fun _ => hR.ofExcept (.error .tooDeep), fun _ _ => hR.ofExcept (.error .tooDeep)⟩
  | succ depth ih => exact ⟨hR.view ih, hR.builder ih⟩

end RenderRel.Congruence

end Folio
