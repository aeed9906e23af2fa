import Folio.Page.Parts

/-!
# Rendering

Rendering writes into a sink and leaves other traces: constructors kept by the registries, templates
located, a journal of what the builders did, and measurements. A failure ends it and leaves what was
written before.

* `Shared`, **`Rendering`**: what outlives a request, and all that rendering changes.
* `Failure`: how rendering may end early.
* **`Render`**: computations that render.
* `Render.attempt`, `Render.capture`: go on with an error, or with the text that was written.
-/

namespace Folio

/-- What outlives a request. -/
structure Shared where
  views : Registry View := { kind := "view" }
  builders : Registry Builder := { kind := "builder" }
  located : Located := []

/-- **All that rendering changes.** -/
structure Rendering where
  shared : Shared := {}
  sink : Sink := {}
  /-- The journal, latest entry first. -/
  journal : List Note := []
  /-- The measurements, latest first. -/
  measurements : List Measurement := []

/-- How rendering may end early. -/
inductive Failure
  | error (error : RenderError)
  | panic
  /-- Components are nested deeper than was allowed for. -/
  | tooDeep
  deriving DecidableEq, Inhabited, Repr

/-- **Computations that render.** -/
abbrev Render := ExceptT Failure (StateM Rendering)

namespace Render

/-- Fail with an error. -/
def fail {α : Type} (error : RenderError) : Render α :=
  throw (.error error)

/-- Write a text. -/
def write (text : String) : Render Unit := fun rendering =>
  match rendering.sink.offer text with
  | (true, sink) => (.ok (), { rendering with sink := sink })
  | (false, sink) => (.error (.error .output), { rendering with sink := sink })

/-- Put an entry into the journal. -/
def note (note : Note) : Render Unit :=
  modify fun rendering => { rendering with journal := note :: rendering.journal }

/-- Count. -/
def measure (measurement : Measurement) : Render Unit :=
  modify fun rendering => { rendering with measurements := measurement :: rendering.measurements }

/-- Go on with an error as with a value. Nothing goes on after a panic, nor where something is
nested too deep. -/
def attempt {α : Type} (render : Render α) : Render (Except RenderError α) := fun rendering =>
  match render rendering with
  | (.ok value, rendering) => (.ok (.ok value), rendering)
  | (.error (.error e), rendering) => (.ok (.error e), rendering)
  | (.error .panic, rendering) => (.error .panic, rendering)
  | (.error .tooDeep, rendering) => (.error .tooDeep, rendering)

/-- Render into a text of its own, and go on with it. -/
def capture (render : Render Unit) : Render (Except RenderError Unit × String) := fun rendering =>
  match attempt render { rendering with sink := {} } with
  | (outcome, next) =>
    (outcome.map fun reply => (reply, next.sink.text), { next with sink := rendering.sink })

/-- Open a template. -/
def openTemplate (context : Context) (name : String) : Render (List Signal) := fun rendering =>
  match context.templates.openTemplate rendering.shared.located name context.searchRoot with
  | (outcome, located) =>
    (outcome.mapError .error,
      { rendering with shared := { rendering.shared with located := located } })

/-- Construct a registered view; a model selects the constructor that takes one. -/
def constructView (context : Context) (identifier : String) (model : Option Model) : Render View :=
  fun rendering =>
    let args : ConstructorArgs := { request := context.request, model := model }
    match rendering.shared.views.create identifier args with
    | (outcome, views) =>
      (outcome.mapError fun e => .error (.configuration e),
        { rendering with shared := { rendering.shared with views := views } })

/-- Note what the construction of a builder writes into the journal. -/
def noteCreated (builder : Builder) : Render Builder := do
  builder.created.forM fun line => note (.line line)
  return builder

/-- Have the registry of builders make a builder. -/
def constructBy (make : Registry Builder → Except ConfigurationError Builder × Registry Builder) :
    Render Builder := fun rendering =>
  match make rendering.shared.builders with
  | (.error e, builders) =>
    (.error (.error (.configuration e)),
      { rendering with shared := { rendering.shared with builders := builders } })
  | (.ok builder, builders) =>
    noteCreated builder { rendering with shared := { rendering.shared with builders := builders } }

/-- Construct a builder from its descriptor. -/
def constructFrom (descriptor : Descriptor Builder) (args : ConstructorArgs) : Render Builder :=
  constructBy fun builders => builders.construct descriptor args

/-- Construct a registered builder. -/
def constructBuilder (context : Context) (identifier : String) (pathData : PathData) :
    Render Builder :=
  constructBy fun builders =>
    builders.create identifier { request := context.request, pathData := pathData }

end Render

end Folio
