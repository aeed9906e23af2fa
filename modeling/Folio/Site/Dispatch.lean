import Folio.Site.Basic

/-!
# Serving requests

* `Dispatch`: who served a request.
* **`Site.handle`**: resolve the path of a request, construct the builder and write its page.
* `Ending`, `Outcome`: how a rendering ended, and its traces; `Render.outcome?` runs it.
* `Shared.settle`: run it as deep as it needs.
* **`Site.answer`**: serve a request.
-/

namespace Folio

/-- Who served a request. -/
structure Dispatch where
  routeId : Int
  /-- The name of the builder's type. -/
  builder : String
  /-- Did no route match? -/
  fallback : Bool
  deriving DecidableEq, Inhabited, Repr

namespace Site

/-- Construct the builder that a path leads to and write its page. -/
def serve (site : Site) (depth : Nat) (request : Request)
    (found : Destination (Descriptor Builder)) : Render Dispatch := do
  if found.fallback then Render.measure (.routeMiss true)
  let builder ← Render.constructFrom found.handler
    { request := request, pathData := found.pathData, routeId := found.routeId }
  let context := site.context request
  builder.build context (Inner.level context depth) 0
  return { routeId := found.routeId, builder := found.typeName, fallback := found.fallback }

/-- **Serve a request**, with components nested at most `depth` deep. Nothing is written if neither
a route nor a fallback takes the path. -/
def handle (site : Site) (depth : Nat) (request : Request) : Render (Option Dispatch) :=
  match site.routes.resolve request.path with
  | none => do
    Render.measure (.routeMiss false)
    return none
  | some found => do
    return some (← site.serve depth request found)

end Site

/-! ## Runs -/

/-- How a rendering ended. -/
inductive Ending (α : Type)
  | returned (value : α)
  | failed (error : RenderError)
  | panicked
  deriving DecidableEq

/-- The ending that a result stands for; there is none yet where something was nested too deep. -/
def Ending.ofResult? {α : Type} : Except Failure α → Option (Ending α)
  | .ok value => some (.returned value)
  | .error (.error e) => some (.failed e)
  | .error .panic => some .panicked
  | .error .tooDeep => none

/-- The traces of one rendering: how it ended, what it wrote, and what it left behind. -/
structure Outcome (α : Type) where
  ending : Ending α
  body : String
  /-- The journal, in order. -/
  journal : List Note
  /-- The measurements, in order. -/
  measurements : List Measurement

/-- **Run a rendering** with the given sink. There is no outcome where it is nested too deep. -/
def Render.outcome? {α : Type} (render : Render α) (sink : Sink) (shared : Shared) :
    Option (Outcome α × Shared) :=
  match render { shared := shared, sink := sink } with
  | (result, rendering) =>
    (Ending.ofResult? result).map fun ending =>
      ({ ending := ending
         body := rendering.sink.text
         journal := rendering.journal.reverse
         measurements := rendering.measurements.reverse },
        rendering.shared)

/-- Run a rendering from the given registries as deep as it needs, trying one depth after the other.
A rendering that never ends gives nothing. -/
def Shared.settle {α : Type} (shared : Shared) (render : Nat → Render α) (sink : Sink)
    (depth : Nat) : Option (Outcome α × Shared) :=
  let first := (render depth).outcome? sink shared
  if first.isSome then first else shared |>.settle render sink (depth + depth + 1)
partial_fixpoint

/-- **Serve a request from the given registries.** A request that never ends has no answer. -/
def Site.answer (site : Site) (request : Request) (sink : Sink) (shared : Shared) :
    Option (Outcome (Option Dispatch) × Shared) :=
  shared.settle (fun depth => site.handle depth request) sink 0

end Folio
