import Folio.Proofs.Render.Preserving
import Folio.Proofs.Scanner.Rejection

/-!
# Renderings that end by themselves

A builder writes a page whose tags are answered in turn. Some of these stand for components of the
page and some for builders of the site. A build ends by itself if the components of its pages nest
finitely and their programs start no builder, and if those builders end that its pages ask the site
for.

What a program is told, and which page its hooks compose, may depend on what outlives requests. So
all this is said of moments with a property that rendering preserves.

* `Render.Gives`, **`Render.Ends`**: what a rendering gives at such moments, and renderings that are
  not cut short for being nested too deep there.
* **`Program.Rests`**, `Program.Rests.ends`: programs that start no builder and nest views to some
  height.
* `Page.occurring`: the tags of a page, as often as they occur.
* `Builder.Gives`, **`Builder.Composes`**: the pages that are composed in the course of a build.
* **`Builder.Rests`**: builders whose pages nest finitely and whose programs rest; `Builder.ends`:
  what such a build has to be told to end by itself.
-/

namespace Folio

variable {P : Shared → Prop} {context : Context} {α β σ : Type}

/-- **What a rendering gives** at some moment. -/
def Render.Gives (P : Shared → Prop) (x : Render α) (a : α) : Prop :=
  ∃ start : Rendering, P start.shared ∧ (x start).1 = .ok a

/-- **The rendering ends by itself** at every moment, with a value or with a failure of its own. It
is not cut short for being nested too deep. -/
def Render.Ends (P : Shared → Prop) (x : Render α) : Prop :=
  ∀ start, P start.shared → P (x start).2.shared ∧ (x start).1 ≠ .error .tooDeep

/-! ## Renderings that end -/

namespace Render

theorem gives_pure_iff {a b : α} (h : Gives P (pure a : Render α) b) : b = a := by
  obtain ⟨start, -, hrun⟩ := h
  exact (Except.ok.inj hrun).symm

theorem Gives.map {x : Render α} {f : α → β} {b : β}
    (h : Gives P (x >>= fun a => pure (f a)) b) : ∃ a, x.Gives P a ∧ f a = b := by
  obtain ⟨start, hstart, hrun⟩ := h
  rw [bind_apply] at hrun
  revert hrun
  rcases hx : x start with ⟨_ | a, next⟩
  · exact nofun
  · exact fun hrun => ⟨a, ⟨start, hstart, congrArg Prod.fst hx⟩, Except.ok.inj hrun⟩

/-- What is given after an error that may have been met. -/
theorem Gives.attempt {x : Render α} {outcome : Except RenderError α}
    (h : (Render.attempt x).Gives P outcome) {a : α} (ha : outcome = .ok a) : x.Gives P a := by
  obtain ⟨start, hstart, hrun⟩ := h
  refine ⟨start, hstart, ?_⟩
  subst ha
  unfold Render.attempt at hrun
  revert hrun
  rcases x start with ⟨(_ | _ | _) | value, next⟩ <;> rintro ⟨⟩
  rfl

/-- A construction is never cut short. -/
theorem constructBy_ne_tooDeep
    (make : Registry Builder → Except ConfigurationError Builder × Registry Builder)
    (start : Rendering) : (constructBy make start).1 ≠ .error .tooDeep := by
  rw [constructBy_result]
  rcases (make start.shared.builders).1 with _ | builder <;> exact nofun

namespace Ends

theorem bind {x : Render α} {f : α → Render β} (h : x.Ends P)
    (hf : ∀ a, x.Gives P a → (f a).Ends P) : (x >>= f).Ends P := by
  intro start hstart
  have hends := h start hstart
  rw [bind_apply]
  revert hends
  rcases hx : x start with ⟨e | a, next⟩
  · exact fun ⟨hnext, he⟩ => ⟨hnext, fun hdeep => he (by rw [← Except.error.inj hdeep])⟩
  · exact fun ⟨hnext, _⟩ => hf a ⟨start, hstart, congrArg Prod.fst hx⟩ next hnext

theorem attempt {x : Render α} (h : x.Ends P) : (Render.attempt x).Ends P := by
  intro start hstart
  have hends := h start hstart
  unfold Render.attempt
  revert hends
  rcases x start with ⟨(_ | _ | _) | _, next⟩
  · exact fun ⟨hnext, _⟩ => ⟨hnext, nofun⟩
  · exact fun ⟨hnext, _⟩ => ⟨hnext, nofun⟩
  · exact fun ⟨_, hdeep⟩ => absurd rfl hdeep
  · exact fun ⟨hnext, _⟩ => ⟨hnext, nofun⟩

theorem capture {x : Render Unit} (h : x.Ends P) : (Render.capture x).Ends P := by
  intro start hstart
  have hends := h.attempt { start with sink := {} } hstart
  unfold Render.capture
  revert hends
  rcases Render.attempt x { start with sink := {} } with ⟨outcome, next⟩
  rintro ⟨hnext, hdeep⟩
  refine ⟨hnext, fun hsame => hdeep ?_⟩
  cases outcome with
  | ok _ => cases hsame
  | error e => exact congrArg Except.error (Except.error.inj hsame)

/-- What is never cut short. -/
theorem of_preserves {x : Render α} (h : x.Preserves P)
    (hends : ∀ start, (x start).1 ≠ .error .tooDeep) : x.Ends P :=
  fun start hstart => ⟨h start hstart, hends start⟩

theorem ofExcept {outcome : Except Failure α} (h : outcome ≠ .error .tooDeep) :
    (Render.ofExcept outcome).Ends P :=
  fun _ hstart => ⟨hstart, h⟩

theorem pure (a : α) : (pure a : Render α).Ends P := ofExcept nofun

theorem fail (error : RenderError) : (Render.fail error : Render α).Ends P := ofExcept nofun

theorem panic : (throw .panic : Render α).Ends P := ofExcept nofun

theorem write (text : String) : (Render.write text).Ends P := by
  refine of_preserves (.write text) fun start => ?_
  unfold Render.write
  rcases start.sink.offer text with ⟨_ | _, sink⟩ <;> exact nofun

theorem note (entry : Note) : (Render.note entry).Ends P := fun _ hstart => ⟨hstart, nofun⟩

theorem measure (measurement : Measurement) : (Render.measure measurement).Ends P :=
  fun _ hstart => ⟨hstart, nofun⟩

theorem constructBy
    {make : Registry Builder → Except ConfigurationError Builder × Registry Builder}
    (h : (Render.constructBy make).Preserves P) : (Render.constructBy make).Ends P :=
  of_preserves h (constructBy_ne_tooDeep make)

/-- **The events of a template**, one after the other: `I` holds of what is remembered and of the
tags that are left. -/
theorem answerEvents {onTag : TagHandler σ} (I : σ → List String → Prop)
    (h : ∀ memory tag rest, I memory (tag :: rest) → (onTag tag memory).Ends P ∧
      ∀ next, (onTag tag memory).Gives P next → I next rest)
    (events : List Event) {memory : σ} (hI : I memory (tagNames events)) :
    (Folio.answerEvents Render.write onTag events memory).Ends P := by
  induction events generalizing memory with
  | nil => exact pure memory
  | cons event events ih =>
    cases event with
    | literal text => exact (write text).bind fun _ _ => ih hI
    | tag name =>
      obtain ⟨hends, hnext⟩ := h memory name _ hI
      exact hends.bind fun next hgives => ih (hnext next hgives)

end Ends

end Render

/-! ## Programs -/

/-- The number of the component that is to be rendered, if one is. -/
def Ask.rendered? {writes : Bool} : Ask writes → Option Nat
  | .render _ number | .capture number => some number
  | _ => none

/-- **What a program may be told** at some moment, and the components that have numbers then. -/
def Ask.Replies {writes : Bool} (context : Context) (P : Shared → Prop) (made : List Made)
    (question : Ask writes) (told : question.Reply × List Made) : Prop :=
  ∃ depth, (question.answer context (Inner.level context depth) made).Gives P told

/-- **A program rests**: it starts no builder, and nests the views that it renders to a height. It
may construct and bring along what it likes. -/
inductive Program.Rests (context : Context) (P : Shared → Prop) :
    {writes : Bool} → {α : Type} → Nat → Program View Builder writes α → List Made → Prop
  | returns {writes : Bool} {α : Type} {height : Nat} (value : α) (made : List Made) :
    Rests context P height (.returns value : Program View Builder writes α) made
  | fails {writes : Bool} {α : Type} {height : Nat} (error : RenderError) (made : List Made) :
    Rests context P height (.fails error : Program View Builder writes α) made
  | panics {writes : Bool} {α : Type} {height : Nat} (made : List Made) :
    Rests context P height (.panics : Program View Builder writes α) made
  | bring {writes : Bool} {α : Type} {height : Nat} {component : View ⊕ Builder}
    {next : Nat → Program View Builder writes α} {made : List Made}
    (h : Rests context P height (next made.length) (made ++ [.new component])) :
    Rests context P height (.bring component next) made
  /-- Nothing is rendered. -/
  | plain {writes : Bool} {α : Type} {height : Nat} {question : Ask writes}
    {next : question.Reply → Program View Builder writes α} {made : List Made}
    (hplain : question.rendered? = none)
    (hnext : ∀ reply later, question.Replies context P made (reply, later) →
      Rests context P height (next reply) later) :
    Rests context P height (.ask question next) made
  /-- A view is rendered. -/
  | nested {writes : Bool} {α : Type} {height number : Nat} {question : Ask writes}
    {next : question.Reply → Program View Builder writes α} {made : List Made}
    (hnumber : question.rendered? = some number)
    (hbuilder : ∀ name built, made[number]? ≠ some (.builder name built))
    (hview : ∀ view : View, made[number]? = some (.view view) →
      Rests context P height (view.program context) [])
    (hnext : ∀ reply later, question.Replies context P made (reply, later) →
      Rests context P (height + 1) (next reply) later) :
    Rests context P (height + 1) (.ask question next) made

/-- A view whose program rests. -/
abbrev View.Rests (context : Context) (P : Shared → Prop) (height : Nat) (view : View) : Prop :=
  (view.program context).Rests context P height []

namespace Program.Rests

variable {writes : Bool} {program : Program View Builder writes α} {height : Nat} {made : List Made}

theorem mono (h : program.Rests context P height made) {more : Nat} (hle : height ≤ more) :
    program.Rests context P more made := by
  induction h generalizing more with
  | returns value made => exact .returns value made
  | fails error made => exact .fails error made
  | panics made => exact .panics made
  | bring _ ih => exact .bring (ih hle)
  | plain hplain _ ih => exact .plain hplain fun reply later htold => ih reply later htold hle
  | nested hnumber hbuilder _ _ ihView ihNext =>
    obtain ⟨more, rfl⟩ := Nat.exists_eq_add_of_le' (Nat.le_trans (Nat.succ_pos _) hle)
    exact .nested hnumber hbuilder
      (fun view hview => ihView view hview (Nat.le_of_succ_le_succ hle))
      fun reply later htold => ihNext reply later htold hle

theorem bind {f : α → Program View Builder writes β} (h : program.Rests context P height made)
    (hf : ∀ a later, (f a).Rests context P height later) :
    (program >>= f).Rests context P height made := by
  change (program.andThen f).Rests context P height made
  induction h with
  | returns value made => exact hf value made
  | fails error made => exact .fails error made
  | panics made => exact .panics made
  | bring _ ih => exact .bring (ih hf)
  | plain hplain _ ih => exact .plain hplain fun reply later htold => ih reply later htold hf
  | nested hnumber hbuilder hview _ _ ihNext =>
    exact .nested hnumber hbuilder hview fun reply later htold => ihNext reply later htold hf

theorem mapM {ι : Type} {f : ι → Program View Builder writes α}
    (h : ∀ x later, (f x).Rests context P height later) (xs : List ι) (made : List Made) :
    (xs.mapM f).Rests context P height made := by
  induction xs generalizing made with
  | nil => exact .returns [] made
  | cons x xs ih =>
    rw [List.mapM_cons]
    exact (h x made).bind fun _ later => (ih later).bind fun _ later => .returns _ later

theorem orFail (outcome : Except RenderError α) (made : List Made) :
    (orFail outcome : Program View Builder writes α).Rests context P height made := by
  cases outcome with
  | ok value => exact .returns value made
  | error error => exact .fails error made

end Program.Rests

namespace View.Rests

/-- A view rests at any height that writes a text. -/
theorem content {height : Nat} (text : String) : (View.content text).Rests context P height :=
  .plain rfl fun reply later _ => .orFail reply later

/-- A view that constructs another one nests it. -/
theorem created {identifier : String} {model : Option Model} {height : Nat}
    (h : ∀ view, (Render.constructView context identifier model).Gives P view →
      view.Rests context P height) :
    (View.created identifier model).Rests context P (height + 1) := by
  refine .plain rfl fun reply later htold => ?_
  obtain ⟨depth, htold⟩ := htold
  obtain ⟨outcome, houtcome, htold⟩ := htold.map
  cases outcome with
  | error e =>
    cases htold
    exact .fails e _
  | ok view =>
    cases htold
    refine .nested rfl nofun (fun nested hnested => ?_) fun reply later _ => .orFail reply later
    cases hnested
    exact h view (houtcome.attempt rfl)

end View.Rests

section Stable

variable (hstable : context.Stable P)

include hstable

/-- What renders no component is answered. -/
theorem Ask.answer_ends {writes : Bool} {question : Ask writes} (h : question.rendered? = none)
    (inner : Inner) (made : List Made) : (question.answer context inner made).Ends P := by
  have hcongruence := hstable.congruence
  have hattempt {β γ : Type} {x : Render β} (hx : x.Ends P) (f : Except RenderError β → γ) :
      (Render.attempt x >>= fun reply => pure (f reply)).Ends P :=
    hx.attempt.bind fun _ _ => .pure _
  cases question with
  | render | capture => cases h
  | write hwrites text => exact hattempt (.write text) _
  | note entry => exact (Render.Ends.note entry).bind fun _ _ => .pure _
  | openTemplate name =>
    refine hattempt (.of_preserves (hcongruence.openTemplate name) fun start => ?_) _
    unfold Render.openTemplate
    rcases context.templates.openTemplate start.shared.located name context.searchRoot with
      ⟨_ | _, _⟩ <;> exact nofun
  | createView identifier model =>
    refine hattempt (.of_preserves (hcongruence.constructView identifier model) fun start => ?_) _
    unfold Render.constructView
    dsimp only
    rcases start.shared.views.create identifier _ with ⟨_ | _, _⟩ <;> exact nofun
  | createBuilder identifier pathData =>
    exact hattempt (.constructBy (hcongruence.constructBuilder identifier pathData)) _

/-- **A program that rests at some height ends at that depth.** -/
theorem Program.Rests.ends {writes : Bool} {program : Program View Builder writes α} {height : Nat}
    {made : List Made} (h : program.Rests context P height made) {depth : Nat}
    (hdepth : height ≤ depth) : (program.run context (Inner.level context depth) made).Ends P := by
  induction h generalizing depth with
  | returns value made => exact .pure (value, made)
  | fails error made => exact .fail error
  | panics made => exact .panic
  | bring _ ih =>
    rw [run]
    exact ih hdepth
  | plain hplain _ ih =>
    rw [run]
    exact (Ask.answer_ends hstable hplain _ _).bind fun told htold =>
      ih told.1 told.2 ⟨depth, htold⟩ hdepth
  | @nested _ _ height number question next made hnumber hbuilder _ _ ihView ihNext =>
    obtain ⟨depth, rfl⟩ := Nat.exists_eq_add_of_le' (Nat.le_trans (Nat.succ_pos _) hdepth)
    have hview : ((Inner.level context (depth + 1)).number made number).Ends P := by
      unfold Inner.number
      cases hcomponent : made[number]? with
      | none => exact .panic
      | some component =>
        cases component with
        | view view =>
          exact (ihView view hcomponent (Nat.le_of_succ_le_succ hdepth)).bind fun _ _ => .pure ()
        | builder name built => exact absurd hcomponent (hbuilder name built)
    have hanswer :
        (question.answer context (Inner.level context (depth + 1)) made).Ends P := by
      cases question <;> cases hnumber
      · exact hview.attempt.bind fun _ _ => .pure _
      · exact hview.capture.bind fun _ _ => .pure _
    rw [run]
    exact hanswer.bind fun told htold => ihNext told.1 told.2 ⟨depth + 1, htold⟩ hdepth

theorem View.Rests.ends {view : View} {height : Nat} (h : view.Rests context P height) {depth : Nat}
    (hdepth : height ≤ depth) : (view.render context (Inner.level context depth)).Ends P :=
  (Program.Rests.ends hstable h hdepth).bind fun _ _ => .pure ()

/-- A tag ends that is left to the builders of the site, if that does what it constructs. -/
theorem Render.Ends.answerRegistered {build : Builder → Render Unit} {tag : String}
    (h : ∀ start descriptor, P start → start.builders.get? tag = some descriptor →
      ∀ builder, (constructFrom descriptor { request := context.request }).Gives P builder →
        (build builder).Ends P) :
    (Render.answerRegistered context build tag).Ends P := by
  intro start hstart
  rw [answerRegistered_apply]
  cases hget : start.shared.builders.get? tag with
  | none => exact ⟨hstart, nofun⟩
  | some descriptor =>
    let args : ConstructorArgs := { request := context.request }
    let counted : Rendering :=
      { start with measurements := .nestedBuild .registry :: start.measurements }
    have hmade : P (constructFrom descriptor args counted).2.shared := by
      rw [constructFrom, constructBy_shared]
      exact hstable.builder hstart hget args
    have hends : (constructFrom descriptor args counted).1 ≠ .error .tooDeep :=
      constructBy_ne_tooDeep _ counted
    change P ((constructFrom descriptor args >>= build) counted).2.shared ∧
      ((constructFrom descriptor args >>= build) counted).1 ≠ .error .tooDeep
    rw [bind_apply]
    revert hmade hends
    rcases hrun : constructFrom descriptor args counted with ⟨e | builder, next⟩
    · exact fun hmade hends => ⟨hmade, fun hdeep => hends (by rw [← Except.error.inj hdeep])⟩
    · exact fun hmade _ =>
        h start.shared descriptor hstart hget builder ⟨counted, hstart, congrArg Prod.fst hrun⟩ next
          hmade

end Stable

/-! ## Pages -/

/-- The tags of a master template, as far as it can be read. -/
def MasterTemplate.tags (context : Context) : MasterTemplate → List String
  | .file name =>
    match (context.templates.openTemplate [] name context.searchRoot).1 with
    | .ok signals =>
      tagNames
        (({} : Scanner).saidOf context.templateOptions (Expansion.charsOfTemplate name signals))
    | .error _ => []
  | .text content => tagNames (eventsOf context.textOptions content)

/-- The tags that occur on a page, in order. -/
def Page.occurring {κ : Type} (context : Context) (page : Page κ) : List String :=
  page.master.elim [] (MasterTemplate.tags context)

/-- Rendering preserves the property, and templates are the same at all moments with it. -/
structure Context.Settled (context : Context) (P : Shared → Prop) : Prop
    extends context.Stable P where
  opens : ∀ {shared : Shared}, P shared → ∀ name,
    (context.templates.openTemplate shared.located name context.searchRoot).1 =
      (context.templates.openTemplate [] name context.searchRoot).1

section Settled

variable (hsettled : context.Settled P)

include hsettled

namespace Render.Ends

theorem scanTemplate {name : String} {onTag : TagHandler σ} (I : σ → List String → Prop)
    (h : ∀ memory tag rest, I memory (tag :: rest) → (onTag tag memory).Ends P ∧
      ∀ next, (onTag tag memory).Gives P next → I next rest)
    {memory : σ} (hI : I memory ((MasterTemplate.file name).tags context)) :
    (Render.scanTemplate context name onTag memory).Ends P := by
  rw [scanTemplate_eq]
  have hopen : (Render.openTemplate context name).Ends P := by
    refine of_preserves (hsettled.congruence.openTemplate name) fun start => ?_
    unfold Render.openTemplate
    rcases context.templates.openTemplate start.shared.located name context.searchRoot with
      ⟨_ | _, _⟩ <;> exact nofun
  refine hopen.bind fun signals hsignals => ?_
  have htags : (context.templates.openTemplate [] name context.searchRoot).1 = .ok signals := by
    obtain ⟨start, hstart, hrun⟩ := hsignals
    rw [← hsettled.opens hstart]
    unfold Render.openTemplate at hrun
    revert hrun
    rcases context.templates.openTemplate start.shared.located name context.searchRoot with
      ⟨_ | _, _⟩ <;> rintro ⟨⟩
    rfl
  rw [MasterTemplate.tags, htags] at hI
  refine (answerEvents I h _ hI).bind fun _ _ => ofExcept ?_
  unfold Expansion.charsOfTemplate
  induction charsOf signals with
  | nil => exact nofun
  | cons c chars ih =>
    cases c with
    | ok c => exact ih
    | error e => exact nofun

end Render.Ends

/-- **A page ends by itself** if its tags do, those of its builders as often as they occur. -/
theorem Page.ends {inner : Inner} {page : Page Made}
    (hview : ∀ tag ∈ page.occurring context, ∀ view, page.component? tag = some (.view view) →
      (inner.view view).Ends P)
    (hnested : ∀ tag name nested built,
      page.component? tag = some (.builder name (nested, built)) →
        ∀ again < (page.occurring context).count tag, (inner.builder nested (built + again)).Ends P)
    (hsite : ∀ tag ∈ page.occurring context, page.component? tag = none →
      (Render.answerRegistered context (fun builder => inner.builder builder 0) tag).Ends P)
    (name : String) : ((page.map (Made.ready inner)).render context inner name).Ends P := by
  -- What is remembered and what is left are all the tags together.
  let I (seen rest : List String) : Prop := seen.reverse ++ rest = page.occurring context
  have hanswer (seen : List String) (tag : String) (rest : List String)
      (hseen : I seen (tag :: rest)) :
      ((page.map (Made.ready inner)).answerTag context inner tag seen).Ends P := by
    have htag : tag ∈ page.occurring context :=
      hseen ▸ List.mem_append_right _ List.mem_cons_self
    unfold answerTag
    rw [component?_map]
    cases hcomponent : page.component? tag with
    | none => exact hsite tag htag hcomponent
    | some component =>
      cases component with
      | view view => exact hview tag htag view hcomponent
      | builder name built =>
        refine (Render.Ends.measure _).bind fun _ _ => hnested tag name _ _ hcomponent _ ?_
        rw [← hseen, List.count_append, List.count_reverse, List.count_cons_self]
        omega
  have honTag (seen : List String) (tag : String) (rest : List String)
      (hseen : I seen (tag :: rest)) :
      (do
        (page.map (Made.ready inner)).answerTag context inner tag seen
        return tag :: seen
        : Render (List String)).Ends P ∧
      ∀ next, (do
        (page.map (Made.ready inner)).answerTag context inner tag seen
        return tag :: seen
        : Render (List String)).Gives P next → I next rest := by
    refine ⟨(hanswer seen tag rest hseen).bind fun _ _ => .pure _, fun next hgives => ?_⟩
    obtain ⟨-, -, rfl⟩ := hgives.map
    change (tag :: seen).reverse ++ rest = page.occurring context
    rw [← hseen, List.reverse_cons, List.append_assoc, List.singleton_append]
  unfold Page.render
  rw [show (page.map (Made.ready inner)).master = page.master from rfl]
  cases hmaster : page.master with
  | none => exact .fail (.missingMasterTemplate name)
  | some source =>
    have htags : I [] (source.tags context) := by
      change source.tags context = page.occurring context
      rw [occurring, hmaster, Option.elim_some]
    cases source with
    | file name => exact .scanTemplate hsettled I honTag htags
    | text text =>
      dsimp only
      rw [Render.scanInline_eq]
      exact (Render.Ends.answerEvents I honTag _ htags).bind fun _ _ => .pure _

end Settled

/-! ## Builders -/

/-- The three hooks of a builder, one after the other. -/
def Builder.hooks (context : Context) (cycle : Nat) : Builder → Hook (List (PageCall Nat))
  | .mk _ _ prepare model compose => do
    let memory ← prepare context cycle
    let (memory, model) ← model context cycle memory
    compose context cycle memory model

/-- Running a builder's hooks is carrying them out as one program. -/
theorem Builder.calls_eq (context : Context) (inner : Inner) (builder : Builder) (cycle : Nat) :
    builder.calls context inner cycle = (do
      let (calls, made) ← (builder.hooks context cycle).run context inner []
      match calls.mapM (PageCall.fetch? made) with
      | some calls => return calls
      | none => throw .panic) := by
  obtain ⟨name, created, prepare, model, compose⟩ := builder
  rw [calls, hooks, Program.run_bind, bind_assoc]
  refine bind_congr fun prepared => ?_
  obtain ⟨memory, made⟩ := prepared
  exact .symm <| (congrArg (· >>= _) (Program.run_bind context inner _ _ made)).trans
    (bind_assoc _ _ _)

/-- A builder composes a page at some moment. -/
def Builder.Gives (context : Context) (P : Shared → Prop) (builder : Builder) (cycle : Nat)
    (page : Page Made) : Prop :=
  ∃ depth, (builder.page context (Inner.level context depth) cycle).Gives P page

/-- **A page is composed in the course of a build**: it is the builder's own, or it is composed by a
builder that is registered on the builder's own, which is built as often as there is its tag. -/
inductive Builder.Composes (context : Context) (P : Shared → Prop) :
    Builder → Nat → Page Made → Prop
  | own {builder : Builder} {cycle : Nat} {page : Page Made}
    (hpage : builder.Gives context P cycle page) : Composes context P builder cycle page
  | nested {builder nested : Builder} {cycle built again : Nat} {page inside : Page Made}
    {tag name : String} (hpage : builder.Gives context P cycle page)
    (hcomponent : page.component? tag = some (.builder name (nested, built)))
    (hagain : again < (page.occurring context).count tag)
    (hinside : Composes context P nested (built + again) inside) :
    Composes context P builder cycle inside

/-- **A builder rests**: its hooks start no builder, and on the pages that it composes the views
start none and the builders rest, as often as they are built. All of this nests to a height. -/
inductive Builder.Rests (context : Context) (P : Shared → Prop) : Nat → Builder → Nat → Prop
  | mk {height cycle : Nat} {builder : Builder}
    (hhooks : (builder.hooks context cycle).Rests context P height [])
    (hviews : ∀ page, builder.Gives context P cycle page →
      ∀ tag ∈ page.occurring context, ∀ view, page.component? tag = some (.view view) →
        view.Rests context P height)
    (hnested : ∀ page, builder.Gives context P cycle page →
      ∀ tag name nested built, page.component? tag = some (.builder name (nested, built)) →
        ∀ again < (page.occurring context).count tag,
          Rests context P height nested (built + again)) :
    Rests context P (height + 1) builder cycle

namespace Builder

theorem Rests.mono {builder : Builder} {height cycle : Nat}
    (h : builder.Rests context P height cycle) {more : Nat} (hle : height ≤ more) :
    builder.Rests context P more cycle := by
  induction h generalizing more with
  | mk hhooks hviews _ ih =>
    obtain ⟨more, rfl⟩ := Nat.exists_eq_add_of_le' (Nat.le_trans (Nat.succ_pos _) hle)
    have hle := Nat.le_of_succ_le_succ hle
    exact .mk (hhooks.mono hle)
      (fun page hpage tag htag view hview => (hviews page hpage tag htag view hview).mono hle)
      fun page hpage tag name nested built hcomponent again hagain =>
        ih page hpage tag name nested built hcomponent again hagain hle

/-- **A builder that rests ends by itself**, if those tags do that the pages ask the site for which
are composed in the course of its build. -/
theorem Rests.ends (hsettled : context.Settled P) {builder : Builder} {height cycle : Nat}
    (h : builder.Rests context P height cycle) {base : Nat}
    (hsite : ∀ page, builder.Composes context P cycle page →
      ∀ tag ∈ page.occurring context, page.component? tag = none → ∀ depth, base ≤ depth →
        (Render.answerRegistered context
          (fun builder => builder.build context (Inner.level context depth) 0) tag).Ends P)
    {depth : Nat} (hdepth : base + height ≤ depth) :
    (builder.build context (Inner.level context depth) cycle).Ends P := by
  induction h generalizing depth with
  | @mk height cycle builder hhooks hviews _ ih =>
    obtain ⟨depth, rfl⟩ : ∃ less, depth = less + 1 := Nat.exists_eq_succ_of_ne_zero (by omega)
    have hcalls :
        (builder.calls context (Inner.level context (depth + 1)) cycle).Ends P := by
      rw [calls_eq]
      refine (hhooks.ends hsettled.toStable (by omega)).bind fun composed _ => ?_
      obtain ⟨calls, made⟩ := composed
      dsimp only
      cases calls.mapM (PageCall.fetch? made) with
      | none => exact .panic
      | some calls => exact .pure _
    refine (hcalls.bind fun _ _ => .pure _).bind fun page hgives => ?_
    have hpage : builder.Gives context P cycle page := ⟨depth + 1, hgives⟩
    refine Page.ends hsettled (fun tag htag view hview => ?_)
      (fun tag name nested built hcomponent again hagain => ?_) (fun tag htag hnone => ?_) _
    · exact (hviews page hpage tag htag view hview).ends hsettled.toStable (by omega)
    · exact ih page hpage tag name nested built hcomponent again hagain
        (fun inside hinside => hsite inside (.nested hpage hcomponent hagain hinside)) (by omega)
    · exact hsite page (.own hpage) tag htag hnone depth (by omega)

/-! ### Builders of one page -/

section Plain

variable {name : String} {master : MasterTemplate} {components : List (String × (View ⊕ Builder))}
  {cycle : Nat}

/-- What a builder of one page composes. -/
theorem gives_plain {page : Page Made}
    (h : (plain name master components).Gives context P cycle page) :
    page = ({} : Page Made).after
      (.setMaster master :: components.map fun entry => .register entry.1 (.new entry.2)) := by
  obtain ⟨depth, hgives⟩ := h
  rw [Builder.page, calls_plain, pure_bind] at hgives
  exact Render.gives_pure_iff hgives

theorem mem_of_gives_plain {page : Page Made}
    (h : (plain name master components).Gives context P cycle page) {tag : String}
    {component : Made} (hcomponent : page.component? tag = some component) :
    ∃ entry ∈ components, entry.1 = tag ∧ Made.new entry.2 = component := by
  rw [gives_plain h] at hcomponent
  rcases List.mem_cons.mp (Page.mem_of_component?_after hcomponent) with hcall | hcall
  · cases hcall
  · obtain ⟨entry, hentry, hcall⟩ := List.mem_map.mp hcall
    cases hcall
    exact ⟨entry, hentry, rfl, rfl⟩

/-- **A builder of one page rests** if the components of this page do. -/
theorem Rests.plain {height : Nat}
    (hviews : ∀ tag view, (tag, .inl view) ∈ components → view.Rests context P height)
    (hnested : ∀ tag nested, (tag, .inr nested) ∈ components → ∀ again,
      nested.Rests context P height again) :
    (plain name master components).Rests context P (height + 1) cycle := by
  refine .mk ?_ (fun page hpage tag _ view hview => ?_)
    fun page hpage tag name nested built hcomponent again _ => ?_
  · change (Hook.assemble master components).Rests context P height []
    refine .bind (.mapM (fun entry later => ?_) components []) fun calls later => .returns _ later
    exact .bring (.returns (PageCall.register entry.1 later.length) _)
  · obtain ⟨entry, hentry, rfl, hmade⟩ := mem_of_gives_plain hpage hview
    obtain ⟨tag, component | component⟩ := entry <;> cases hmade
    exact hviews tag view hentry
  · obtain ⟨entry, hentry, rfl, hmade⟩ := mem_of_gives_plain hpage hcomponent
    obtain ⟨tag, component | component⟩ := entry <;> cases hmade
    exact hnested tag nested hentry _

end Plain

end Builder

end Folio
