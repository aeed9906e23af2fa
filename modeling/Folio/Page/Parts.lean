import Folio.Page.Basic
import Folio.Page.Program

/-!
# Views and builders

Views are the leaves of a page. Builders are its branches: a builder runs three hooks and then
renders the page that the last of them composed, whose tags may stand for views and further
builders. Views and hooks are programs; hooks have no output.

What a builder keeps in its fields it hands from one hook to the next. Of an earlier build it knows
only that there was one: it is told how many there were. Hooks have no output, so the rest of what
they were told then follows from the site and the request.

* **`View`**, **`Builder`**: what a view does when it is rendered, and the hooks of a builder.
* `Hook`, `Memory`: programs of hooks, and what hooks hand on.
* `Made`: the components that a program knows by their numbers.
* `View.content`, `View.templateFile`, …: some views.
* `Hook.assemble`, `Builder.plain`: composing pages of given components.
-/

namespace Folio

/-- What a builder keeps in its fields, written down as a value. -/
abbrev Memory := Json.Value

mutual

/-- **A view.** Its program is told what the request is rendered with. -/
inductive View
  | mk (program : Context → Program View Builder true Unit)

/-- **A builder of pages.** Its hooks are told what the request is rendered with and how often the
builder was built before. -/
inductive Builder
  /-- `name` stands in messages; `created` are the lines that its construction writes into the
  journal. -/
  | mk (name : String) (created : List String)
    /- Runs first. -/
    (prepare : Context → Nat → Program View Builder false Memory)
    /- Gives the model that the page is composed for. -/
    (model : Context → Nat → Memory → Program View Builder false (Memory × Option Model))
    /- Chooses the master template and the components of its tags, by their numbers. -/
    (compose : Context → Nat → Memory → Option Model →
      Program View Builder false (List (PageCall Nat)))

end

/-- What a hook does. -/
abbrev Hook (α : Type) := Program View Builder false α

/-- What a view does. -/
def View.program : View → Context → Program View Builder true Unit
  | .mk program => program

/-- The name of a builder in messages. -/
def Builder.name : Builder → String
  | .mk name _ _ _ _ => name

/-- The lines that the construction of a builder writes into the journal. -/
def Builder.created : Builder → List String
  | .mk _ created _ _ _ => created

instance : Inhabited View := ⟨.mk fun _ => .panics⟩

instance : Inhabited Builder :=
  ⟨.mk "" [] (fun _ _ => .panics) (fun _ _ _ => .panics) fun _ _ _ _ => .panics⟩

/-! ## Components with numbers -/

/-- A component that has a number: a view, or a builder and how often it was built. -/
abbrev Made := Component View (Builder × Nat)

/-- A component that was just brought along. -/
def Made.new : View ⊕ Builder → Made
  | .inl view => .view view
  | .inr builder => .builder builder.name (builder, 0)

/-- A component that was rendered once more. -/
def Made.again : Made → Made
  | .view view => .view view
  | .builder name (builder, built) => .builder name (builder, built + 1)

/-- The call with a component for its number, if something has that number. -/
def PageCall.fetch? (made : List Made) : PageCall Nat → Option (PageCall Made)
  | .setMaster source => some (.setMaster source)
  | .register tag number => made[number]?.map (PageCall.register tag)

/-! ## Views -/

namespace View

/-- Writes a text. -/
def content (text : String) : View :=
  .mk fun _ => .write text

/-- Copies a template. -/
def templateFile (name : String) : View :=
  .mk fun _ => .copyTemplate name

/-- Writes a template with the properties of a model for its tags. -/
def modelTemplate (name : String) (model : Model) : View :=
  .mk fun context => .fillTemplate context.templateOptions name model

/-- Writes one template per record between a header and a footer. -/
def repeater (templates : RepeaterParts) (items : List Model) (ambient : Model) : View :=
  .mk fun context => .repeatRecords context.templateOptions templates items ambient

/-- Constructs a registered view and renders it. -/
def created (identifier : String) (model : Option Model) : View :=
  .mk fun _ => do .render (← .createView identifier model)

/-- Constructs a registered builder and builds its page. -/
def built (identifier : String) (pathData : PathData) : View :=
  .mk fun _ => do .render (← .createBuilder identifier pathData)

end View

/-! ## Builders -/

/-- Bring components along, and register them on a page with the given master template. -/
def Hook.assemble (master : MasterTemplate) (components : List (String × (View ⊕ Builder))) :
    Hook (List (PageCall Nat)) := do
  let registered ← components.mapM fun (tag, component) => do
    return PageCall.register tag (← .bringing component)
  return .setMaster master :: registered

/-- A builder of one page. -/
def Builder.plain (name : String) (master : MasterTemplate)
    (components : List (String × (View ⊕ Builder)) := []) : Builder :=
  .mk name [] (fun _ _ => return .null) (fun _ _ memory => return (memory, none))
    (fun _ _ _ _ => Hook.assemble master components)

end Folio
