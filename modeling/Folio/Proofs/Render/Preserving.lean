import Folio.Proofs.Render.Congruence

/-!
# What rendering preserves

Rendering changes what outlives the request in three kinds of steps: a template is located, a view
is constructed by its identifier, a builder is constructed from a descriptor. What each of these
steps preserves, all rendering preserves.

* **`Context.Stable`**: what the steps preserve of what outlives a request.
* `Render.Preserves`: a rendering that preserves it; `Render.constructBy_result`,
  `Render.constructBy_shared`: what constructing a builder gives and leaves.
* **`Context.Stable.congruence`**: sequence, errors and the single steps preserve it, and so does
  all that is rendered.
-/

namespace Folio

/-- **What the steps of rendering preserve.** A builder is constructed from a descriptor that is
registered. -/
structure Context.Stable (context : Context) (P : Shared → Prop) : Prop where
  located {shared : Shared} (h : P shared) (name : String) :
    P { shared with
      located := (context.templates.openTemplate shared.located name context.searchRoot).2 }
  view {shared : Shared} (h : P shared) (identifier : String) (args : ConstructorArgs) :
    P { shared with views := (shared.views.create identifier args).2 }
  builder {shared : Shared} (h : P shared) {identifier : String} {descriptor : Descriptor Builder}
    (hget : shared.builders.get? identifier = some descriptor) (args : ConstructorArgs) :
    P { shared with builders := (shared.builders.construct descriptor args).2 }

/-- The rendering preserves a property of what outlives the request. -/
def Render.Preserves (P : Shared → Prop) {α : Type} (x : Render α) : Prop :=
  ∀ start, P start.shared → P (x start).2.shared

namespace Render

variable {P : Shared → Prop} {α β : Type}

theorem noteCreated_shared (builder : Builder) (start : Rendering) :
    (noteCreated builder start).2.shared = start.shared := by
  have hlines (entries : List String) (start : Rendering) :
      ((entries.forM fun line => note (.line line)) start).2.shared = start.shared := by
    induction entries generalizing start with
    | nil => rfl
    | cons entry entries ih => exact ih { start with journal := .line entry :: start.journal }
  rw [noteCreated, bind_apply, ← hlines builder.created start]
  rcases (builder.created.forM fun line => note (.line line)) start with ⟨_ | _, next⟩ <;> rfl

theorem noteCreated_result (builder : Builder) (start : Rendering) :
    (noteCreated builder start).1 = .ok builder := by
  have hlines (entries : List String) (start : Rendering) :
      ((entries.forM fun line => note (.line line)) start).1 = .ok () := by
    induction entries generalizing start with
    | nil => rfl
    | cons entry entries ih => exact ih { start with journal := .line entry :: start.journal }
  rw [noteCreated, bind_apply,
    show (builder.created.forM fun line => note (.line line)) start = (.ok (), _) from
      Prod.ext (hlines builder.created start) rfl]
  rfl

/-- Constructing a builder gives what its registry makes. -/
theorem constructBy_result
    (make : Registry Builder → Except ConfigurationError Builder × Registry Builder)
    (start : Rendering) :
    (constructBy make start).1 =
      (make start.shared.builders).1.mapError fun e => .error (.configuration e) := by
  unfold constructBy
  rcases make start.shared.builders with ⟨_ | builder, builders⟩
  · rfl
  · exact noteCreated_result builder _

/-- Constructing a builder changes the registry of builders only. -/
theorem constructBy_shared
    (make : Registry Builder → Except ConfigurationError Builder × Registry Builder)
    (start : Rendering) :
    (constructBy make start).2.shared =
      { start.shared with builders := (make start.shared.builders).2 } := by
  unfold constructBy
  rcases make start.shared.builders with ⟨_ | builder, builders⟩
  · rfl
  · exact noteCreated_shared builder _

namespace Preserves

theorem bind {x : Render α} {f : α → Render β} (hx : x.Preserves P)
    (hf : ∀ a, (f a).Preserves P) : (x >>= f).Preserves P := by
  intro start hstart
  have hnext := hx start hstart
  rw [bind_apply]
  revert hnext
  rcases x start with ⟨_ | a, next⟩
  · exact id
  · exact hf a next

theorem attempt {x : Render α} (hx : x.Preserves P) : (Render.attempt x).Preserves P := by
  intro start hstart
  have hnext := hx start hstart
  unfold Render.attempt
  revert hnext
  rcases x start with ⟨(_ | _ | _) | _, next⟩ <;> exact id

theorem capture {x : Render Unit} (hx : x.Preserves P) : (Render.capture x).Preserves P :=
  fun start hstart => hx.attempt { start with sink := {} } hstart

theorem write (text : String) : (Render.write text).Preserves P := by
  intro start hstart
  unfold Render.write
  rcases start.sink.offer text with ⟨_ | _, sink⟩ <;> exact hstart

end Preserves

end Render

namespace Context.Stable

variable {context : Context} {P : Shared → Prop}

/-- A builder that is constructed by its identifier is constructed from its descriptor, if there is
one. -/
theorem create (h : context.Stable P) {shared : Shared} (hshared : P shared) (identifier : String)
    (args : ConstructorArgs) :
    P { shared with builders := (shared.builders.create identifier args).2 } := by
  unfold Registry.create
  split
  · exact hshared
  · cases hget : shared.builders.get? identifier with
    | none => exact hshared
    | some descriptor => exact h.builder hshared hget args

/-- **All rendering preserves what its steps preserve.** -/
theorem congruence (h : context.Stable P) :
    RenderRel.Congruence (fun _ x _ => x.Preserves P) context where
  bind := .bind
  attempt := .attempt
  capture := .capture
  ofExcept _ := fun _ hstart => hstart
  write := .write
  note _ := fun _ hstart => hstart
  measure _ := fun _ hstart => hstart
  openTemplate name := fun _ hstart => h.located hstart name
  constructView identifier model := fun _ hstart => h.view hstart identifier _
  constructBuilder identifier pathData := by
    intro start hstart
    rw [Render.constructBuilder, Render.constructBy_shared]
    exact h.create hstart identifier _
  answerRegistered {f g} hf tag := by
    intro start hstart
    rw [Render.answerRegistered_apply]
    cases hget : start.shared.builders.get? tag with
    | none => exact hstart
    | some descriptor =>
      -- Counting changes nothing of this, so the descriptor is registered when it constructs.
      let counted : Rendering :=
        { start with measurements := .nestedBuild .registry :: start.measurements }
      have hnext :
          P (Render.constructFrom descriptor { request := context.request } counted).2.shared := by
        rw [Render.constructFrom, Render.constructBy_shared]
        exact h.builder hstart hget _
      change P ((Render.constructFrom descriptor { request := context.request } >>= f)
        counted).2.shared
      rw [Render.bind_apply]
      revert hnext
      rcases Render.constructFrom descriptor { request := context.request } counted with
        ⟨_ | builder, next⟩
      · exact id
      · exact hf builder next

end Context.Stable

end Folio
