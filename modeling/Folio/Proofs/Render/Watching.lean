import Folio.Proofs.Render.Running

/-!
# Watched rendering

The same rendering, watched: whenever the build cycle of a builder starts, it is written down who
started it, and so is every builder that a tag stands for and that could not be constructed. This is
written down where it happens, and nothing that is counted plays a part in it.

* `Starter`, `Sighting`: who starts a cycle, and what is written down; `cyclesBy`, `refusals`: the
  cycles and the refused builders among it.
* **`Watched`**: renderings with what was sighted in their course.
* `Watched.scanTemplate`, `Watched.scanInline`: templates whose tags are answered by watched
  renderings.
* `Ask.watched`, `Program.watched`: programs, watched.
* `View.watched`, `Page.watched`, **`Builder.watched`**: views, pages and builders, watched;
  `WatchedInner.level`: components nested to a depth.
-/

namespace Folio

/-- Who starts the build cycle of a builder. -/
inductive Starter
  /-- The request that the page is composed for. -/
  | request
  /-- A program that renders a builder. -/
  | program
  /-- A tag, of a builder registered on its page or of one registered with the site. -/
  | tag (source : BuildSource)
  deriving DecidableEq

/-- What is written down of a rendering. -/
inductive Sighting
  /-- The build cycle of a builder starts. -/
  | cycle (starter : Starter)
  /-- A tag stands for the builder of a descriptor, which could not be constructed. -/
  | refused (descriptor : Descriptor Builder)

/-- The number of cycles that were started by one. -/
def cyclesBy (starter : Starter) (seen : List Sighting) : Nat :=
  seen.countP fun
    | .cycle other => other = starter
    | .refused _ => false

/-- The descriptors of the builders that could not be constructed. -/
def refusals (seen : List Sighting) : List (Descriptor Builder) :=
  seen.filterMap fun
    | .cycle _ => none
    | .refused descriptor => some descriptor

/-- **Renderings with what was sighted in their course**, in order. -/
def Watched (α : Type) := Rendering → (Except Failure α × Rendering) × List Sighting

namespace Watched

variable {α β σ : Type}

/-- A rendering in which nothing is sighted. -/
def plain (x : Render α) : Watched α := fun start => (x start, [])

/-- The rendering alone. -/
def unwatched (x : Watched α) : Render α := fun start => (x start).1

/-- Write something down. -/
def sight (sighting : Sighting) : Watched Unit := fun start => ((.ok (), start), [sighting])

/-- One after the other. After a failure nothing follows. -/
def andThen (x : Watched α) (f : α → Watched β) : Watched β := fun start =>
  match x start with
  | ((.ok a, next), seen) => ((f a next).1, seen ++ (f a next).2)
  | ((.error e, next), seen) => ((.error e, next), seen)

instance : Monad Watched where
  pure a := plain (pure a)
  bind := andThen

/-- Go on with an error as with a value. What was sighted before it was. -/
def attempt (x : Watched α) : Watched (Except RenderError α) := fun start =>
  (Render.attempt x.unwatched start, (x start).2)

/-- Render into a text of its own, and go on with it. -/
def capture (x : Watched Unit) : Watched (Except RenderError Unit × String) := fun start =>
  (Render.capture x.unwatched start, (x { start with sink := {} }).2)

/-- Construct the builder that a tag stands for. -/
def constructFor (descriptor : Descriptor Builder) (args : ConstructorArgs) : Watched Builder :=
  fun start =>
    let run := Render.constructFrom descriptor args start
    (run, if run.1.isOk then [] else [.refused descriptor])

/-- Scan a template. -/
def scanTemplate (context : Context) (name : String) (onTag : String → σ → Watched σ)
    (memory : σ) : Watched Unit := do
  let chars := Expansion.charsOfTemplate name (← plain (Render.openTemplate context name))
  let _ ← answerEvents (fun text => plain (Render.write text)) onTag
    (({} : Scanner).saidOf context.templateOptions chars) memory
  plain (Render.ofExcept (ending chars))

/-- Scan a text. -/
def scanInline (context : Context) (text : String) (onTag : String → σ → Watched σ)
    (memory : σ) : Watched Unit := do
  let _ ← answerEvents (fun text => plain (Render.write text)) onTag
    (eventsOf context.textOptions text) memory

end Watched

/-! ## Programs -/

/-- How the components are rendered that another one refers to, watched. -/
structure WatchedInner where
  view : View → Watched Unit
  /-- Builds a page, for the one who starts the cycle. -/
  builder : Starter → Builder → Nat → Watched Unit

/-- The renderings alone. -/
def WatchedInner.unwatched (inner : WatchedInner) : Inner where
  view := fun view => (inner.view view).unwatched
  builder := fun builder cycle => (inner.builder .program builder cycle).unwatched

/-- Render the component of a number, watched. -/
def WatchedInner.number (inner : WatchedInner) (made : List Made) (number : Nat) : Watched Unit :=
  match made[number]? with
  | some (.view view) => inner.view view
  | some (.builder _ (builder, built)) => inner.builder .program builder built
  | none => .plain (throw .panic)

/-- Answer what a program asks for, watched. Only components that it renders start cycles. -/
def Ask.watched {writes : Bool} (context : Context) (inner : WatchedInner) (made : List Made) :
    (question : Ask writes) → Watched (question.Reply × List Made)
  | .render _ number => do
    return (← Watched.attempt (inner.number made number), made.modify number Made.again)
  | .capture number => do
    return (← Watched.capture (inner.number made number), made.modify number Made.again)
  | question => .plain (question.answer context inner.unwatched made)

/-- Carry out a program, watched. -/
def Program.watched {writes : Bool} {α : Type} (context : Context) (inner : WatchedInner) :
    Program View Builder writes α → List Made → Watched (α × List Made)
  | .returns value, made => return (value, made)
  | .fails error, _ => .plain (Render.fail error)
  | .panics, _ => .plain (throw .panic)
  | .bring component next, made =>
    (next made.length).watched context inner (made ++ [.new component])
  | .ask question next, made => do
    let (reply, made) ← question.watched context inner made
    (next reply).watched context inner made

/-! ## Views, pages and builders -/

/-- **Render a view, watched.** -/
def View.watched (context : Context) (inner : WatchedInner) (view : View) : Watched Unit := do
  let _ ← (view.program context).watched context inner []

/-- A component ready to be rendered, watched. -/
abbrev WatchedReady := Component (Watched Unit) (Nat → Watched Unit)

/-- A component of a page, ready to be rendered, watched. Tags start the cycles of its builders. -/
def Made.watched (inner : WatchedInner) : Made → WatchedReady
  | .view view => .view (inner.view view)
  | .builder name (builder, built) =>
    .builder name fun more => inner.builder (.tag .page) builder (built + more)

/-- Answer one tag of a page, watched. -/
def Page.watchedAnswer (context : Context) (inner : WatchedInner) (page : Page WatchedReady)
    (tag : String) (seen : List String) : Watched Unit :=
  match page.component? tag with
  | some (.view render) => render
  | some (.builder _ build) => do
    Watched.plain (Render.measure (.nestedBuild .page))
    build (seen.count tag)
  | none => do
    match (← Watched.plain get).shared.builders.get? tag with
    | none => pure ()
    | some descriptor =>
      Watched.plain (Render.measure (.nestedBuild .registry))
      inner.builder (.tag .registry)
        (← Watched.constructFor descriptor { request := context.request }) 0

/-- Answer one tag of a page, watched, and remember it. -/
def Page.watchedReplace (context : Context) (inner : WatchedInner) (page : Page WatchedReady)
    (tag : String) (seen : List String) : Watched (List String) := do
  page.watchedAnswer context inner tag seen
  return tag :: seen

/-- Write a page, watched. -/
def Page.watched (context : Context) (inner : WatchedInner) (builder : String)
    (page : Page WatchedReady) : Watched Unit :=
  match page.master with
  | some (.file name) => Watched.scanTemplate context name (page.watchedReplace context inner) []
  | some (.text text) => Watched.scanInline context text (page.watchedReplace context inner) []
  | none => .plain (Render.fail (.missingMasterTemplate builder))

/-- Run a builder's hooks, watched. -/
def Builder.watchedCalls (context : Context) (inner : WatchedInner) :
    Builder → Nat → Watched (List (PageCall Made))
  | .mk _ _ prepare model compose, cycle => do
    let (memory, made) ← (prepare context cycle).watched context inner []
    let ((memory, model), made) ← (model context cycle memory).watched context inner made
    let (calls, made) ← (compose context cycle memory model).watched context inner made
    match calls.mapM (PageCall.fetch? made) with
    | some calls => return calls
    | none => .plain (throw .panic)

/-- **Run a builder's hooks and write its page, watched.** It is written down first who starts the
cycle. -/
def Builder.watched (context : Context) (inner : WatchedInner) (starter : Starter)
    (builder : Builder) (cycle : Nat) : Watched Unit := do
  Watched.sight (.cycle starter)
  let calls ← builder.watchedCalls context inner cycle
  ((({} : Page Made).after calls).map (Made.watched inner)).watched context inner builder.name

/-- Components, watched, that nest at most `depth` deep. -/
def WatchedInner.level (context : Context) : Nat → WatchedInner
  | 0 =>
    { view := fun _ => .plain (throw .tooDeep)
      builder := fun starter _ _ => do
        Watched.sight (.cycle starter)
        Watched.plain (throw .tooDeep) }
  | depth + 1 =>
    { view := fun view => view.watched context (WatchedInner.level context depth)
      builder := fun starter builder cycle =>
        builder.watched context (WatchedInner.level context depth) starter cycle }

end Folio
