import Folio.Proofs.Render.Running

/-!
# The expansion of a page

What a builder's page expands to, written as a script: the hooks in their order, then the master
template from its beginning to its end, every literal as it is and every tag replaced by the
expansion of what it stands for. Programs are followed where nothing that they ask for is refused;
an error that they would be told ends the script.

* `Expansion.openTemplate`, `Expansion.construct`: the steps between the writes;
  `Expansion.capture`: a script whose texts are kept apart.
* `Expansion.answerEvents_error`: where the events of a template end early.
* `Ask.expansion`, **`Program.expansion`**: what a program expands to.
* `View.expansion`, `Page.answer`, `Page.expansion`, **`Builder.expansion`**: what views, tags,
  pages and builders expand to; `InnerExpansion.level`: components nested to a depth.
-/

namespace Folio

/-- The acts that write nothing. -/
def silent (acts : List Act) : List Act :=
  acts.filter fun
    | .write _ => false
    | _ => true

namespace Expansion

/-! ## Steps -/

/-- The lines that go into the journal. -/
def lines (entries : List String) : Expansion Unit :=
  entries.forM fun line => note (.line line)

/-- The stream of a template. Its place is remembered. -/
def openTemplate (context : Context) (name : String) : Expansion (List Signal) := fun shared =>
  match context.templates.openTemplate shared.located name context.searchRoot with
  | (outcome, located) =>
    ⟨[.share { shared with located := located }], outcome.mapError .error⟩

/-- A view from its registry. The constructor is kept. -/
def constructView (context : Context) (identifier : String) (model : Option Model) :
    Expansion View := fun shared =>
  match shared.views.create identifier { request := context.request, model := model } with
  | (outcome, views) =>
    ⟨[.share { shared with views := views }], outcome.mapError fun e => .error (.configuration e)⟩

/-- A builder made by the registry of builders. The constructor is kept. -/
def made (make : Registry Builder → Except ConfigurationError Builder × Registry Builder) :
    Expansion Builder := fun shared =>
  match make shared.builders with
  | (outcome, builders) =>
    ⟨[.share { shared with builders := builders }],
      outcome.mapError fun e => .error (.configuration e)⟩

/-- A builder made by the registry of builders, and the lines of its construction. -/
def construct (make : Registry Builder → Except ConfigurationError Builder × Registry Builder) :
    Expansion Builder := do
  let builder ← made make
  lines builder.created
  return builder

/-- A fresh builder from its descriptor. -/
def constructFrom (descriptor : Descriptor Builder) (args : ConstructorArgs) : Expansion Builder :=
  construct fun builders => builders.construct descriptor args

/-- A fresh builder by its identifier. -/
def constructBuilder (context : Context) (identifier : String) (pathData : PathData) :
    Expansion Builder :=
  construct fun builders =>
    builders.create identifier { request := context.request, pathData := pathData }

/-- A script whose texts are kept apart, and its text. -/
def capture (x : Expansion Unit) : Expansion String := fun shared =>
  ⟨silent (x shared).acts, (x shared).result.map fun _ => String.join (texts (x shared).acts)⟩

/-! ## Templates -/

/-- **Where the events of a template end early**: all before a tag is expanded, the tag's
replacement fails, and nothing but what it did before it failed follows. -/
theorem answerEvents_error {σ : Type} {onTag : String → σ → Expansion σ} {events : List Event}
    {memory : σ} {shared : Shared} {error : Failure}
    (h : (answerEvents write onTag events memory shared).result = .error error) :
    ∃ before tag after reached, events = before ++ .tag tag :: after ∧
      let done := answerEvents write onTag before memory shared
      let failed := onTag tag reached (sharedAfter shared done.acts)
      done.result = .ok reached ∧ failed.result = .error error ∧
        (answerEvents write onTag events memory shared).acts = done.acts ++ failed.acts := by
  induction events generalizing memory shared with
  | nil => cases h
  | cons event events ih =>
    cases event with
    | literal text =>
      obtain ⟨before, tag, after, reached, rfl, hdone, hfailed, hacts⟩ := ih h
      exact ⟨.literal text :: before, tag, after, reached, rfl, hdone, hfailed,
        congrArg (Act.write text :: ·) hacts⟩
    | tag name =>
      cases hname : (onTag name memory shared).result with
      | error e =>
        have hall : answerEvents write onTag (.tag name :: events) memory shared =
            ⟨(onTag name memory shared).acts, .error e⟩ := andThen_error _ hname
        rw [hall] at h ⊢
        exact ⟨[], name, events, memory, rfl, rfl, hname.trans h, rfl⟩
      | ok next =>
        have hall := fun events => andThen_ok (answerEvents write onTag events) hname
        have hrest : (answerEvents write onTag events next
            (sharedAfter shared (onTag name memory shared).acts)).result = .error error :=
          (congrArg Script.result (hall events)).symm.trans h
        obtain ⟨before, tag, after, reached, rfl, hdone, hfailed, hacts⟩ := ih hrest
        have hbefore : answerEvents write onTag (.tag name :: before) memory shared = _ :=
          hall before
        refine ⟨.tag name :: before, tag, after, reached, rfl, ?_⟩
        rw [hbefore, show answerEvents write onTag (.tag name :: _) memory shared = _ from hall _]
        dsimp only
        rw [sharedAfter_append, hacts, List.append_assoc]
        exact ⟨hdone, hfailed, rfl⟩

/-- A template with its tags replaced, up to its end or to where it cannot be read. -/
def scanTemplate {σ : Type} (context : Context) (name : String)
    (onTag : String → σ → Expansion σ) (memory : σ) : Expansion Unit := do
  let chars := charsOfTemplate name (← openTemplate context name)
  let _ ← answerEvents write onTag (({} : Scanner).saidOf context.templateOptions chars) memory
  ofExcept (ending chars)

/-- A text with its tags replaced. -/
def scanInline {σ : Type} (context : Context) (text : String) (onTag : String → σ → Expansion σ)
    (memory : σ) : Expansion Unit := do
  let _ ← answerEvents write onTag (eventsOf context.textOptions text) memory

end Expansion

/-! ## Programs -/

/-- What the components expand to that another one refers to. -/
structure InnerExpansion where
  view : View → Expansion Unit
  /-- Builds a page; the number tells how often the builder was built before. -/
  builder : Builder → Nat → Expansion Unit

/-- What the component of a number expands to. -/
def InnerExpansion.number (inner : InnerExpansion) (made : List Made) (number : Nat) :
    Expansion Unit :=
  match made[number]? with
  | some (.view view) => inner.view view
  | some (.builder _ (builder, built)) => inner.builder builder built
  | none => .fail .panic

/-- What is done to answer what a program asks for. -/
def Ask.expansion {writes : Bool} (context : Context) (inner : InnerExpansion) (made : List Made) :
    (question : Ask writes) → Expansion (question.Reply × List Made)
  | .write _ text => do
    Expansion.write text
    return (Except.ok (), made)
  | .render _ number => do
    inner.number made number
    return (Except.ok (), made.modify number Made.again)
  | .capture number => do
    let text ← Expansion.capture (inner.number made number)
    return ((Except.ok (), text), made.modify number Made.again)
  | .note entry => do
    return (← Expansion.note entry, made)
  | .openTemplate name => do
    return (Except.ok (← Expansion.openTemplate context name), made)
  | .createView identifier model => do
    let view ← Expansion.constructView context identifier model
    return (Except.ok made.length, made ++ [.new (.inl view)])
  | .createBuilder identifier pathData => do
    let builder ← Expansion.constructBuilder context identifier pathData
    return (Except.ok made.length, made ++ [.new (.inr builder)])

/-- **What a program expands to** where nothing that it asks for is refused. -/
def Program.expansion {writes : Bool} {α : Type} (context : Context) (inner : InnerExpansion) :
    Program View Builder writes α → List Made → Expansion (α × List Made)
  | .returns value, made => return (value, made)
  | .fails error, _ => .fail (.error error)
  | .panics, _ => .fail .panic
  | .bring component next, made =>
    (next made.length).expansion context inner (made ++ [.new component])
  | .ask question next, made => do
    let (reply, made) ← question.expansion context inner made
    (next reply).expansion context inner made

/-! ## Views, pages and builders -/

/-- **What a view expands to.** -/
def View.expansion (context : Context) (inner : InnerExpansion) (view : View) :
    Expansion Unit := do
  let _ ← (view.program context).expansion context inner []

/-- What a component of a page expands to: a builder, each time that it is built. -/
abbrev Told := Component (Expansion Unit) (Nat → Expansion Unit)

/-- What a component expands to that is registered on a page. -/
def Made.told (inner : InnerExpansion) : Made → Told
  | .view view => .view (inner.view view)
  | .builder name (builder, built) => .builder name fun more => inner.builder builder (built + more)

/-- **What a tag is replaced by**: by its view, by the build of its builder, by the first build of a
fresh instance of the site's builder of that name, or by nothing. -/
def Page.answer (context : Context) (inner : InnerExpansion) (page : Page Told) (tag : String)
    (seen : List String) : Expansion Unit :=
  match page.component? tag with
  | some (.view view) => view
  | some (.builder _ build) => do
    Expansion.measure (.nestedBuild .page)
    build (seen.count tag)
  | none => do
    match (← Expansion.shared).builders.get? tag with
    | none => pure ()
    | some descriptor =>
      Expansion.measure (.nestedBuild .registry)
      inner.builder (← Expansion.constructFrom descriptor { request := context.request }) 0

/-- Replace a tag, and remember it. -/
def Page.replace (context : Context) (inner : InnerExpansion) (page : Page Told) (tag : String)
    (seen : List String) : Expansion (List String) := do
  page.answer context inner tag seen
  return tag :: seen

/-- **What a page expands to**: its master template, each tag replaced. -/
def Page.expansion (context : Context) (inner : InnerExpansion) (builder : String)
    (page : Page Told) : Expansion Unit :=
  match page.master with
  | some (.file name) => Expansion.scanTemplate context name (page.replace context inner) []
  | some (.text text) => Expansion.scanInline context text (page.replace context inner) []
  | none => Expansion.fail (.error (.missingMasterTemplate builder))

/-- **What a build expands to**: the three hooks in their order, each once, then the page that they
compose. -/
def Builder.expansion (context : Context) (inner : InnerExpansion) :
    Builder → Nat → Expansion Unit
  | .mk name _ prepare model compose, cycle => do
    let (memory, made) ← (prepare context cycle).expansion context inner []
    let ((memory, model), made) ← (model context cycle memory).expansion context inner made
    let (calls, made) ← (compose context cycle memory model).expansion context inner made
    match calls.mapM (PageCall.fetch? made) with
    | some calls =>
      ((({} : Page Made).after calls).map (Made.told inner)).expansion context inner name
    | none => .fail .panic

/-- What components expand to that nest at most `depth` deep. -/
def InnerExpansion.level (context : Context) : Nat → InnerExpansion
  | 0 =>
    { view := fun _ => Expansion.fail .tooDeep, builder := fun _ _ => Expansion.fail .tooDeep }
  | depth + 1 =>
    { view := fun view => view.expansion context (InnerExpansion.level context depth)
      builder := fun builder cycle =>
        builder.expansion context (InnerExpansion.level context depth) cycle }

end Folio
