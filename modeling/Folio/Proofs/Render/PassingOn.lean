import Folio.Proofs.Registry.Lookup
import Folio.Render.Page

/-!
# Passing on errors

A program may do with an error what it likes. It passes errors on if it ends with each error that it
is told, before it does anything else. A component passes errors on if all its programs do, and a
site does if everything does that its constructors make.

* `Ask.refused?`: the error that a program is told.
* **`Program.PassesOn`**, `View.PassesOn`, `Builder.PassesOn`: programs and components that end with
  the errors they are told.
* `Descriptor.Makes`, `Registry.Makes`: all that is constructed has a property.
* `Builder.PassesOn.plain`: builders of one page.
* **`Shared.PassesOn`**: all that registries construct passes errors on.
-/

namespace Folio

/-! ## Programs and components -/

/-- The error that a program is told, if it is told one. -/
def Ask.refused? {writes : Bool} : (question : Ask writes) → question.Reply → Option RenderError
  | .write _ _, .error e | .render _ _, .error e | .capture _, (.error e, _) => some e
  | .openTemplate _, .error e | .createView _ _, .error e | .createBuilder _ _, .error e => some e
  | _, _ => none

mutual

/-- **Programs that end with the errors they are told.** -/
inductive Program.PassesOn :
    {writes : Bool} → {α : Type} → Program View Builder writes α → Prop
  | returns {writes : Bool} {α : Type} (value : α) :
    Program.PassesOn (.returns value : Program View Builder writes α)
  | fails {writes : Bool} {α : Type} (error : RenderError) :
    Program.PassesOn (.fails error : Program View Builder writes α)
  | panics {writes : Bool} {α : Type} :
    Program.PassesOn (.panics : Program View Builder writes α)
  | view {writes : Bool} {α : Type} {view : View} {next : Nat → Program View Builder writes α}
    (hview : View.PassesOn view) (hnext : ∀ number, Program.PassesOn (next number)) :
    Program.PassesOn (.bring (.inl view) next)
  | builder {writes : Bool} {α : Type} {builder : Builder}
    {next : Nat → Program View Builder writes α} (hbuilder : Builder.PassesOn builder)
    (hnext : ∀ number, Program.PassesOn (next number)) :
    Program.PassesOn (.bring (.inr builder) next)
  | ask {writes : Bool} {α : Type} {question : Ask writes}
    {next : question.Reply → Program View Builder writes α}
    (hrefused : ∀ reply error, question.refused? reply = some error → next reply = .fails error)
    (hnext : ∀ reply, question.refused? reply = none → Program.PassesOn (next reply)) :
    Program.PassesOn (.ask question next)

/-- Views that end with the errors they are told. -/
inductive View.PassesOn : View → Prop
  | mk {program : Context → Program View Builder true Unit}
    (h : ∀ context, Program.PassesOn (program context)) : View.PassesOn (.mk program)

/-- Builders whose hooks end with the errors they are told. -/
inductive Builder.PassesOn : Builder → Prop
  | mk {name : String} {created : List String}
    {prepare : Context → Nat → Hook Memory}
    {model : Context → Nat → Memory → Hook (Memory × Option Model)}
    {compose : Context → Nat → Memory → Option Model → Hook (List (PageCall Nat))}
    (hprepare : ∀ context cycle, Program.PassesOn (prepare context cycle))
    (hmodel : ∀ context cycle memory, Program.PassesOn (model context cycle memory))
    (hcompose : ∀ context cycle memory chosen,
      Program.PassesOn (compose context cycle memory chosen)) :
    Builder.PassesOn (.mk name created prepare model compose)

end

/-- A component that ends with the errors it is told. -/
def Made.PassesOn : Made → Prop
  | .view view => view.PassesOn
  | .builder _ (builder, _) => builder.PassesOn

namespace Program.PassesOn

variable {writes : Bool} {α γ : Type}

/-- A program that goes on with what it asked for, or ends with the error. -/
theorem orFail (outcome : Except RenderError α) :
    (Program.orFail outcome : Program View Builder writes α).PassesOn := by
  cases outcome with
  | ok value => exact returns value
  | error e => exact fails e

theorem bind {x : Program View Builder writes α} {f : α → Program View Builder writes γ}
    (hx : x.PassesOn) (hf : ∀ a, (f a).PassesOn) : (x >>= f).PassesOn := by
  change (x.andThen f).PassesOn
  induction x with
  | returns value => exact hf value
  | fails error => exact fails error
  | panics => exact panics
  | bring component next ih =>
    cases hx with
    | view hview hnext => exact view hview fun number => ih number (hnext number)
    | builder hbuilder hnext => exact builder hbuilder fun number => ih number (hnext number)
  | ask question next ih =>
    cases hx with
    | ask hrefused hnext =>
      refine ask (fun reply error herror => ?_) fun reply hreply => ih reply (hnext reply hreply)
      rw [hrefused reply error herror]
      rfl

theorem write (text : String) : (Program.write text : Program View Builder true Unit).PassesOn := by
  refine ask (fun reply error herror => ?_) fun reply _ => orFail reply
  cases reply <;> cases herror
  rfl

theorem bringing {component : View ⊕ Builder} (h : (Made.new component).PassesOn) :
    (Program.bringing component : Program View Builder writes Nat).PassesOn := by
  cases component with
  | inl component => exact view h returns
  | inr component => exact builder h returns

theorem mapM {ι : Type} {xs : List ι} {f : ι → Program View Builder writes α}
    (h : ∀ x ∈ xs, (f x).PassesOn) : (xs.mapM f).PassesOn := by
  have hloop (done : List α) : (List.mapM.loop f xs done).PassesOn := by
    induction xs generalizing done with
    | nil => exact returns _
    | cons x xs ih =>
      exact bind (h x List.mem_cons_self) fun _ =>
        ih (fun y hy => h y (List.mem_cons_of_mem x hy)) _
  exact hloop []

end Program.PassesOn

/-- A builder of one page passes errors on if the page's components do. -/
theorem Builder.PassesOn.plain (name : String) (master : MasterTemplate)
    {components : List (String × (View ⊕ Builder))}
    (h : ∀ entry ∈ components, (Made.new entry.2).PassesOn) :
    (Builder.plain name master components).PassesOn :=
  .mk (fun _ _ => .returns _) (fun _ _ _ => .returns _) fun _ _ _ _ =>
    .bind (.mapM fun entry hentry => .bind (.bringing (h entry hentry)) fun _ => .returns _)
      fun _ => .returns _

/-! ## Registries -/

/-- All that the constructors of a descriptor make has a property. -/
def Descriptor.Makes {α : Type} (P : α → Prop) (descriptor : Descriptor α) : Prop :=
  ∀ signature constructor, descriptor.constructor? signature = some constructor →
    ∀ args, P (constructor args)

/-- All that a registry makes has a property, also by the constructors that it keeps. -/
structure Registry.Makes {α : Type} (P : α → Prop) (registry : Registry α) : Prop where
  entries : ∀ entry ∈ registry.entries, entry.2.Makes P
  kept : ∀ kept ∈ registry.constructors, ∀ args, P (kept.2 args)

namespace Registry.Makes

variable {α : Type} {P : α → Prop} {registry : Registry α}

theorem construct (h : registry.Makes P) {descriptor : Descriptor α}
    (hdescriptor : descriptor.Makes P) (args : ConstructorArgs) :
    (registry.construct descriptor args).2.Makes P ∧
      ∀ thing, (registry.construct descriptor args).1 = .ok thing → P thing := by
  unfold Registry.construct
  dsimp only
  cases hkept : registry.constructor? descriptor.id args.signature with
  | some constructor =>
    refine ⟨h, fun thing hthing => ?_⟩
    obtain rfl := Except.ok.inj hthing
    exact h.kept _ (mem_constructors_of_constructor? hkept) args
  | none =>
    cases hown : descriptor.constructor? args.signature with
    | none => exact ⟨h, nofun⟩
    | some constructor =>
      have hmakes := hdescriptor _ _ hown
      refine ⟨⟨h.entries, fun kept hmem => ?_⟩, fun thing hthing => ?_⟩
      · rcases List.mem_cons.mp hmem with rfl | hmem
        · exact hmakes
        · exact h.kept kept (List.mem_filter.mp hmem).1
      · obtain rfl := Except.ok.inj hthing
        exact hmakes args

theorem create (h : registry.Makes P) (identifier : String) (args : ConstructorArgs) :
    (registry.create identifier args).2.Makes P ∧
      ∀ thing, (registry.create identifier args).1 = .ok thing → P thing := by
  unfold Registry.create
  split
  · exact ⟨h, nofun⟩
  · cases hget : registry.get? identifier with
    | none => exact ⟨h, nofun⟩
    | some descriptor => exact h.construct (h.entries _ (mem_entries_of_get? hget)) args

end Registry.Makes

/-- **All that registries construct passes errors on.** -/
structure Shared.PassesOn (shared : Shared) : Prop where
  views : shared.views.Makes View.PassesOn
  builders : shared.builders.Makes Builder.PassesOn

end Folio
