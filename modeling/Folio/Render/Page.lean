import Folio.Render.Fill

/-!
# Building pages

A builder's page is built by running its hooks and scanning the master template it chose. A tag
stands for a view of the page, a builder of the page, a builder of the site, or nothing.

Components are rendered in the course of other components, and nothing keeps this from going round
in a circle. So it is followed to a given depth only, and a rendering that would go deeper is cut
short with `Failure.tooDeep`, which nobody can tell from within. What is not cut short does the same
at every greater depth.

* `Inner`: how the components are rendered that another one refers to; `Inner.level` bounds the
  depth.
* `Ask.answer`, **`Program.run`**: carry out a program.
* **`View.render`**: render a view.
* `Page.answerTag`: answer one tag of a page; `Page.render`: write the page.
* `Builder.calls`, `Builder.page`, **`Builder.build`**: run a builder's hooks, and write the page
  that they compose.
-/

namespace Folio

/-- How the components are rendered that another one refers to. -/
structure Inner where
  view : View → Render Unit
  /-- Builds a page; the number tells how often the builder was built before. -/
  builder : Builder → Nat → Render Unit

/-- Render a component that has a number. -/
def Inner.component (inner : Inner) : Made → Render Unit
  | .view view => inner.view view
  | .builder _ (builder, built) => inner.builder builder built

/-- Render the component of a number. Asking for a number that was not given is a mistake that ends
all. -/
def Inner.number (inner : Inner) (made : List Made) (number : Nat) : Render Unit :=
  match made[number]? with
  | some component => inner.component component
  | none => throw .panic

/-! ## Programs -/

/-- Give a number to what was constructed, if it was. -/
def Made.numbered (made : List Made) :
    Except RenderError Made → Except RenderError Nat × List Made
  | .ok component => (.ok made.length, made ++ [component])
  | .error e => (.error e, made)

/-- **Answer what a program asks for**, and number what is constructed. -/
def Ask.answer {writes : Bool} (context : Context) (inner : Inner) (made : List Made) :
    (question : Ask writes) → Render (question.Reply × List Made)
  | .write _ text => do
    return (← Render.attempt (Render.write text), made)
  | .render _ number => do
    return (← Render.attempt (inner.number made number), made.modify number Made.again)
  | .capture number => do
    return (← Render.capture (inner.number made number), made.modify number Made.again)
  | .note entry => do
    return (← Render.note entry, made)
  | .openTemplate name => do
    return (← Render.attempt (Render.openTemplate context name), made)
  | .createView identifier model => do
    let view ← Render.attempt (Render.constructView context identifier model)
    return Made.numbered made (view.map fun view => .new (.inl view))
  | .createBuilder identifier pathData => do
    let builder ← Render.attempt (Render.constructBuilder context identifier pathData)
    return Made.numbered made (builder.map fun builder => .new (.inr builder))

/-- **Carry out a program.** The components that have numbers stand in a list. -/
def Program.run {writes : Bool} {α : Type} (context : Context) (inner : Inner) :
    Program View Builder writes α → List Made → Render (α × List Made)
  | .returns value, made => return (value, made)
  | .fails error, _ => Render.fail error
  | .panics, _ => throw .panic
  | .bring component next, made => (next made.length).run context inner (made ++ [.new component])
  | .ask question next, made => do
    let (reply, made) ← question.answer context inner made
    (next reply).run context inner made

/-- **Render a view.** -/
def View.render (context : Context) (inner : Inner) (view : View) : Render Unit := do
  let _ ← (view.program context).run context inner []

/-! ## Pages -/

/-- A component ready to be rendered: a builder is told how often its tag was met before. -/
abbrev Ready := Component (Render Unit) (Nat → Render Unit)

/-- Answer one tag of a page; `seen` are the tags of the page before it. -/
def Page.answerTag (context : Context) (inner : Inner) (page : Page Ready) (tag : String)
    (seen : List String) : Render Unit :=
  match page.component? tag with
  | some (.view render) => render
  | some (.builder _ build) => do
    Render.measure (.nestedBuild .page)
    build (seen.count tag)
  | none => do
    match (← get).shared.builders.get? tag with
    | none => pure ()
    | some descriptor =>
      Render.measure (.nestedBuild .registry)
      inner.builder (← Render.constructFrom descriptor { request := context.request }) 0

/-- **Write a page**: scan the master template and answer its tags. The name of the builder stands
in the error of a page without one. -/
def Page.render (context : Context) (inner : Inner) (builder : String) (page : Page Ready) :
    Render Unit :=
  let onTag : TagHandler (List String) := fun tag seen => do
    page.answerTag context inner tag seen
    return tag :: seen
  match page.master with
  | some (.file name) => Render.scanTemplate context name onTag []
  | some (.text text) => Render.scanInline context text onTag []
  | none => Render.fail (.missingMasterTemplate builder)

/-- A component of a page, ready to be rendered. -/
def Made.ready (inner : Inner) : Made → Ready
  | .view view => .view (inner.view view)
  | .builder name (builder, built) => .builder name fun more => inner.builder builder (built + more)

/-! ## Builders -/

/-- **Run a builder's hooks**, each once, and give the calls that compose its page; `cycle` tells
how often the builder was built before. -/
def Builder.calls (context : Context) (inner : Inner) :
    Builder → Nat → Render (List (PageCall Made))
  | .mk _ _ prepare model compose, cycle => do
    let (memory, made) ← (prepare context cycle).run context inner []
    let ((memory, model), made) ← (model context cycle memory).run context inner made
    let (calls, made) ← (compose context cycle memory model).run context inner made
    match calls.mapM (PageCall.fetch? made) with
    | some calls => return calls
    | none => throw .panic

/-- The page that a builder composes. -/
def Builder.page (context : Context) (inner : Inner) (builder : Builder) (cycle : Nat) :
    Render (Page Made) := do
  return ({} : Page Made).after (← builder.calls context inner cycle)

/-- **Run a builder's hooks and write its page.** -/
def Builder.build (context : Context) (inner : Inner) (builder : Builder) (cycle : Nat) :
    Render Unit := do
  let page ← builder.page context inner cycle
  (page.map (Made.ready inner)).render context inner builder.name

/-! ## Depth -/

/-- Rendering where the components that others refer to nest at most `depth` deep. -/
def Inner.level (context : Context) : Nat → Inner
  | 0 => { view := fun _ => throw .tooDeep, builder := fun _ _ => throw .tooDeep }
  | depth + 1 =>
    { view := fun view => view.render context (Inner.level context depth)
      builder := fun builder cycle => builder.build context (Inner.level context depth) cycle }

end Folio
