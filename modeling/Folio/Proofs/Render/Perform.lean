import Folio.Proofs.Render.Congruence
import Folio.Proofs.Render.Expansion
import Folio.Proofs.Render.PassingOn

/-!
# Rendering performs the expansion

Where all components pass on the errors they are told, rendering a view, a page or a builder is
performing what it expands to: nothing that is rendered depends on the sink, except that a rejected
write ends it.

* **`Render.Performs`**: a rendering that performs an expansion, and what holds of its result.
* `Performs.bind`, `Performs.attempt`, `Performs.told`, `Performs.capture`: the rules.
* `Performs.scanTemplate`, `Performs.scanInline`: scanning a template performs its events, the tags
  replaced.
* **`Program.PassesOn.performs`**: so do programs that pass errors on.
* `View.PassesOn.performs`, `Page.PassesOn.performs`, **`Builder.PassesOn.performs`**: and views,
  pages and builders; `Inner.performs_level`: and what these refer to.
-/

namespace Folio

/-- **The rendering performs the expansion** wherever all that is constructed passes errors on; this
stays so, and `Q` holds of what it gives. -/
def Render.Performs {α : Type} (Q : α → Prop) (x : Render α) (y : Expansion α) : Prop :=
  ∀ start, start.shared.PassesOn → x start = y.perform start ∧ (x start).2.shared.PassesOn ∧
    ∀ a, (x start).1 = .ok a → Q a

/-! ## Texts that are kept apart -/

/-- Into a sink of its own, a script is performed as a whole; apart from the sink it leaves what its
silent acts leave. -/
theorem performAll_silent (acts : List Act) (start : Rendering) (sink : Sink) (h : sink.Open) :
    ∃ last : Sink, last.text = sink.text ++ String.join (texts acts) ∧
      performAll acts { start with sink := sink } =
        (.ok (), { (performAll (silent acts) start).2 with sink := last }) ∧
      performAll (silent acts) start =
        (.ok (), { (performAll (silent acts) start).2 with sink := start.sink }) := by
  induction acts generalizing start sink with
  | nil => exact ⟨sink, String.append_empty.symm, rfl, rfl⟩
  | cons act acts ih =>
    cases act with
    | write text =>
      obtain ⟨last, hlast, hall, hsilent⟩ := ih start _ (h.offer text)
      refine ⟨last, ?_, ?_, hsilent⟩
      · rw [hlast, Sink.offer_taken (h.taken text), String.append_assoc]
        exact congrArg (sink.text ++ ·) String.join_cons.symm
      · rw [performAll, Act.perform, Render.write_taken (h.taken text)]
        exact hall
    | note entry => exact ih { start with journal := entry :: start.journal } sink h
    | measure measurement =>
      exact ih { start with measurements := measurement :: start.measurements } sink h
    | share shared => exact ih { start with shared := shared } sink h

/-- Where an error of what was rendered apart is passed on, it ends all. -/
theorem Expansion.capture_bind {β : Type} (y : Expansion Unit)
    {f : Except RenderError Unit × String → Render β}
    (h : ∀ error text, f (.error error, text) = Render.fail error) :
    Render.capture y.perform >>= f = y.capture.perform >>= fun text => f (.ok (), text) := by
  funext start
  obtain ⟨last, hlast, hall, hsilent⟩ :=
    performAll_silent (y start.shared).acts start {} ⟨rfl, rfl⟩
  have htext : last.text = String.join (texts (y start.shared).acts) :=
    hlast.trans String.empty_append
  rw [Render.bind_apply, Render.bind_apply]
  simp only [Render.capture, Render.attempt, Expansion.perform, Expansion.capture, Script.perform,
    hall]
  rw [hsilent]
  rcases (y start.shared).result with (error | _ | _) | _
  · exact congrFun (h error last.text) _
  · rfl
  · rfl
  · simp only [Except.map, htext]

namespace Render.Performs

variable {α β : Type} {P : β → Prop} {Q : α → Prop}

theorem bind {x : Render α} {y : Expansion α} {f : α → Render β} {g : α → Expansion β}
    (hx : x.Performs Q y) (hf : ∀ a, Q a → (f a).Performs P (g a)) :
    (x >>= f).Performs P (y >>= g) := by
  intro start hstart
  obtain ⟨hsame, hnext, hvalue⟩ := hx start hstart
  rw [Expansion.perform_bind, bind_apply, bind_apply, ← hsame]
  revert hnext hvalue
  rcases x start with ⟨e | a, next⟩
  · exact fun hnext _ => ⟨rfl, hnext, nofun⟩
  · exact fun hnext hvalue => hf a (hvalue a rfl) next hnext

theorem mono {x : Render α} {y : Expansion α} (h : x.Performs Q y) {R : α → Prop}
    (hR : ∀ a, Q a → R a) : x.Performs R y := fun start hstart =>
  ⟨(h start hstart).1, (h start hstart).2.1, fun a ha => hR a ((h start hstart).2.2 a ha)⟩

theorem pure {a : α} (h : Q a) : (Pure.pure a : Render α).Performs Q (Pure.pure a) :=
  fun _ hstart => ⟨rfl, hstart, fun _ hsame => Except.ok.inj hsame ▸ h⟩

theorem error (failure : Failure) :
    (Render.ofExcept (.error failure) : Render α).Performs Q (.fail failure) :=
  fun _ hstart => ⟨rfl, hstart, nofun⟩

theorem ofExcept (outcome : Except Failure α) :
    (Render.ofExcept outcome).Performs (fun _ => True) (.ofExcept outcome) :=
  fun _ hstart => ⟨rfl, hstart, fun _ _ => trivial⟩

/-- A single act that leaves what outlives the request. -/
theorem act (act : Act) (h : ∀ start, (act.perform start).2.shared = start.shared) :
    act.perform.Performs (fun _ => True) (.act act) := fun start hstart =>
  ⟨(congrFun (Expansion.perform_act act) start).symm, (h start).symm ▸ hstart, fun _ _ => trivial⟩

theorem write (text : String) : (Render.write text).Performs (fun _ => True) (.write text) := by
  refine act (.write text) fun start => ?_
  rw [Act.perform, Render.write]
  rcases start.sink.offer text with ⟨_ | _, sink⟩ <;> rfl

theorem note (entry : Note) : (Render.note entry).Performs (fun _ => True) (.note entry) :=
  act (.note entry) fun _ => rfl

theorem measure (measurement : Measurement) :
    (Render.measure measurement).Performs (fun _ => True) (.measure measurement) :=
  act (.measure measurement) fun _ => rfl

theorem forM {ι : Type} (xs : List ι) {f : ι → Render Unit} {g : ι → Expansion Unit}
    (h : ∀ x, (f x).Performs (fun _ => True) (g x)) :
    (xs.forM f).Performs (fun _ => True) (xs.forM g) := by
  induction xs with
  | nil => exact pure trivial
  | cons x xs ih => exact bind (h x) fun _ _ => ih

/-! ## Errors that are passed on -/

theorem attempt {x : Render α} {y : Expansion α} (hx : x.Performs Q y)
    {f : Except RenderError α → Render β} {g : α → Expansion β}
    (hrefused : ∀ error, f (.error error) = fail error)
    (hf : ∀ a, Q a → (f (.ok a)).Performs P (g a)) :
    (Render.attempt x >>= f).Performs P (y >>= g) := by
  rw [attempt_bind x hrefused]
  exact bind hx hf

/-- What is asked for is told and gone on with. -/
theorem told {γ : Type} {x : Render α} {y : Expansion α} (hx : x.Performs Q y)
    {reply : Except RenderError α → γ} {granted : α → γ} {f : γ → Render β} {g : γ → Expansion β}
    (hrefused : ∀ error, f (reply (.error error)) = fail error)
    (hf : ∀ a, Q a → (f (reply (.ok a))).Performs P (g (granted a))) :
    ((Render.attempt x >>= fun outcome => Pure.pure (reply outcome)) >>= f).Performs P
      ((y >>= fun a => Pure.pure (granted a)) >>= g) := by
  simp only [bind_assoc, pure_bind]
  exact attempt hx hrefused hf

/-- What a script leaves whose texts are kept apart. -/
theorem captured {x : Render Unit} {y : Expansion Unit} (hx : x.Performs (fun _ => True) y) :
    y.capture.perform.Performs (fun _ => True) y.capture := by
  intro start hstart
  refine ⟨rfl, ?_, fun _ _ => trivial⟩
  obtain ⟨hsame, hnext, -⟩ := hx { start with sink := {} } hstart
  obtain ⟨last, -, hall, hsilent⟩ :=
    performAll_silent (y start.shared).acts start {} ⟨rfl, rfl⟩
  rw [hsame] at hnext
  simp only [Expansion.perform, Script.perform, hall] at hnext
  simp only [Expansion.perform, Expansion.capture, Script.perform]
  rw [hsilent]
  exact hnext

theorem capture {x : Render Unit} {y : Expansion Unit} (hx : x.Performs (fun _ => True) y)
    {f : Except RenderError Unit × String → Render β} {g : String → Expansion β}
    (hrefused : ∀ error text, f (.error error, text) = fail error)
    (hf : ∀ text, (f (.ok (), text)).Performs P (g text)) :
    (Render.capture x >>= f).Performs P (y.capture >>= g) := by
  intro start hstart
  have hsame : Render.capture x start = Render.capture y.perform start := by
    rw [Render.capture, Render.capture, Render.attempt, Render.attempt,
      (hx { start with sink := {} } hstart).1]
  have hall : (Render.capture x >>= f) start =
      (y.capture.perform >>= fun text => f (.ok (), text)) start := by
    rw [← Expansion.capture_bind y hrefused, bind_apply, bind_apply, hsame]
  rw [hall]
  exact bind (captured hx) (fun text _ => hf text) start hstart

/-! ## Steps -/

theorem openTemplate (context : Context) (name : String) :
    (Render.openTemplate context name).Performs (fun _ => True)
      (.openTemplate context name) := by
  refine fun start hstart => ⟨?_, ⟨hstart.views, hstart.builders⟩, fun _ _ => trivial⟩
  unfold Expansion.openTemplate Render.openTemplate Expansion.perform
  dsimp only
  rcases context.templates.openTemplate start.shared.located name context.searchRoot with ⟨_, _⟩
  rfl

theorem constructView (context : Context) (identifier : String) (model : Option Model) :
    (Render.constructView context identifier model).Performs View.PassesOn
      (.constructView context identifier model) := by
  intro start hstart
  obtain ⟨hviews, hview⟩ :=
    hstart.views.create identifier { request := context.request, model := model }
  unfold Expansion.constructView Render.constructView Expansion.perform
  dsimp only
  revert hviews hview
  rcases start.shared.views.create identifier { request := context.request, model := model } with
    ⟨_ | view, views⟩
  · exact fun hviews _ => ⟨rfl, ⟨hviews, hstart.builders⟩, nofun⟩
  · refine fun hviews hview => ⟨rfl, ⟨hviews, hstart.builders⟩, fun other hother => ?_⟩
    cases hother
    exact hview view rfl

/-- A builder passes errors on if the registry makes such builders and keeps making them. -/
theorem construct {make : Registry Builder → Except ConfigurationError Builder × Registry Builder}
    (h : ∀ builders : Registry Builder, builders.Makes Builder.PassesOn →
      (make builders).2.Makes Builder.PassesOn ∧
        ∀ builder, (make builders).1 = .ok builder → builder.PassesOn) :
    (constructBy make).Performs Builder.PassesOn (.construct make) := by
  intro start hstart
  obtain ⟨hbuilders, hbuilder⟩ := h start.shared.builders hstart.builders
  have hmade : (Expansion.made make).perform start =
      ((make start.shared.builders).1.mapError fun e => .error (.configuration e),
        { start with
          shared := { start.shared with builders := (make start.shared.builders).2 } }) := rfl
  rw [Expansion.construct, Expansion.perform_bind, bind_apply, hmade, constructBy]
  revert hbuilders hbuilder
  rcases make start.shared.builders with ⟨_ | builder, builders⟩
  · exact fun hbuilders _ => ⟨rfl, ⟨hstart.views, hbuilders⟩, nofun⟩
  · intro hbuilders hbuilder
    exact bind (forM builder.created fun line => note (.line line))
      (fun _ _ => pure (hbuilder builder rfl)) _ ⟨hstart.views, hbuilders⟩

theorem constructFrom {descriptor : Descriptor Builder} (h : descriptor.Makes Builder.PassesOn)
    (args : ConstructorArgs) :
    (Render.constructFrom descriptor args).Performs Builder.PassesOn
      (.constructFrom descriptor args) :=
  construct fun _ hbuilders => hbuilders.construct h args

theorem constructBuilder (context : Context) (identifier : String) (pathData : PathData) :
    (Render.constructBuilder context identifier pathData).Performs Builder.PassesOn
      (.constructBuilder context identifier pathData) :=
  construct fun _ hbuilders => hbuilders.create identifier _

/-! ## Templates -/

section Templates

variable {σ : Type} {f : TagHandler σ} {g : String → σ → Expansion σ}
  (h : ∀ tag memory, (f tag memory).Performs (fun _ => True) (g tag memory))

include h

theorem answerEvents (events : List Event) (memory : σ) :
    (Folio.answerEvents Render.write f events memory).Performs (fun _ => True)
      (Folio.answerEvents Expansion.write g events memory) := by
  induction events generalizing memory with
  | nil => exact pure trivial
  | cons event events ih =>
    cases event with
    | literal text => exact bind (write text) fun _ _ => ih memory
    | tag name => exact bind (h name memory) fun memory _ => ih memory

theorem scanTemplate (context : Context) (name : String) (memory : σ) :
    (Render.scanTemplate context name f memory).Performs (fun _ => True)
      (Expansion.scanTemplate context name g memory) := by
  rw [Render.scanTemplate_eq]
  exact bind (openTemplate context name) fun _ _ =>
    bind (answerEvents h _ memory) fun _ _ => ofExcept _

theorem scanInline (context : Context) (text : String) (memory : σ) :
    (Render.scanInline context text f memory).Performs (fun _ => True)
      (Expansion.scanInline context text g memory) := by
  rw [Render.scanInline_eq]
  exact bind (answerEvents h _ memory) fun _ _ => pure trivial

end Templates

end Render.Performs

/-! ## Programs -/

variable {context : Context}

/-- Rendering the components that others refer to performs what they expand to, if they pass errors
on. -/
structure Inner.Performs (inner : Inner) (told : InnerExpansion) : Prop where
  view : ∀ {view : View}, view.PassesOn →
    (inner.view view).Performs (fun _ => True) (told.view view)
  builder : ∀ {builder : Builder}, builder.PassesOn → ∀ cycle,
    (inner.builder builder cycle).Performs (fun _ => True) (told.builder builder cycle)

/-- All components that have numbers pass errors on. -/
abbrev AllPassOn (made : List Made) : Prop := ∀ component ∈ made, component.PassesOn

namespace AllPassOn

variable {made : List Made}

theorem append (h : AllPassOn made) {component : Made} (hcomponent : component.PassesOn) :
    AllPassOn (made ++ [component]) := by
  intro other hother
  rcases List.mem_append.mp hother with hother | hother
  · exact h other hother
  · exact List.mem_singleton.mp hother ▸ hcomponent

theorem again (h : AllPassOn made) (number : Nat) : AllPassOn (made.modify number Made.again) := by
  intro component hcomponent
  obtain ⟨place, hplace⟩ := List.mem_iff_getElem?.mp hcomponent
  rw [List.getElem?_modify] at hplace
  obtain ⟨before, hbefore, rfl⟩ := Option.map_eq_some_iff.mp hplace
  have hpasses := h before (List.mem_of_getElem? hbefore)
  split
  · cases before <;> exact hpasses
  · exact hpasses

end AllPassOn

section Inner

variable {inner : Inner} {told : InnerExpansion} (hinner : inner.Performs told)

include hinner

theorem Inner.Performs.number {made : List Made} (hmade : AllPassOn made) (number : Nat) :
    (inner.number made number).Performs (fun _ => True) (told.number made number) := by
  unfold Inner.number InnerExpansion.number
  cases hnumber : made[number]? with
  | none => exact .error .panic
  | some component =>
    have hpasses := hmade component (List.mem_of_getElem? hnumber)
    cases component with
    | view view => exact hinner.view hpasses
    | builder name built => exact hinner.builder hpasses built.2

/-- **A program that passes errors on performs what it expands to.** -/
theorem Program.PassesOn.performs {writes : Bool} {α : Type}
    {program : Program View Builder writes α} (h : program.PassesOn) {made : List Made}
    (hmade : AllPassOn made) :
    (program.run context inner made).Performs (fun last => AllPassOn last.2)
      (program.expansion context told made) := by
  induction program generalizing made with
  | returns value => exact .pure hmade
  | fails error => exact .error _
  | panics => exact .error .panic
  | bring component next ih =>
    rw [run, expansion]
    cases h with
    | view hview hnext => exact ih _ (hnext _) (hmade.append hview)
    | builder hbuilder hnext => exact ih _ (hnext _) (hmade.append hbuilder)
  | ask question next ih =>
    obtain ⟨hrefused, hnext⟩ : (∀ reply error, question.refused? reply = some error →
        next reply = .fails error) ∧
        ∀ reply, question.refused? reply = none → (next reply).PassesOn := by
      cases h with
      | ask hrefused hnext => exact ⟨hrefused, hnext⟩
    have hfail {reply : question.Reply} {error : RenderError}
        (herror : question.refused? reply = some error) (made : List Made) :
        (next reply).run context inner made = Render.fail error := by
      rw [hrefused reply error herror]
      rfl
    rw [run, expansion]
    cases question with
    | write hwrites text =>
      exact .told (.write text) (fun _ => hfail rfl _) fun _ _ => ih _ (hnext _ rfl) hmade
    | render hwrites number =>
      exact .told (hinner.number hmade number) (fun _ => hfail rfl _) fun _ _ =>
        ih _ (hnext _ rfl) (hmade.again number)
    | capture number =>
      simp only [Ask.answer, Ask.expansion, bind_assoc, pure_bind]
      exact .capture (hinner.number hmade number) (fun _ _ => hfail rfl _) fun _ =>
        ih _ (hnext _ rfl) (hmade.again number)
    | note entry =>
      simp only [Ask.answer, Ask.expansion, bind_assoc, pure_bind]
      exact .bind (.note entry) fun _ _ => ih _ (hnext _ rfl) hmade
    | openTemplate name =>
      exact .told (.openTemplate context name) (fun _ => hfail rfl _) fun _ _ =>
        ih _ (hnext _ rfl) hmade
    | createView identifier model =>
      refine .told (.constructView context identifier model) (fun _ => hfail rfl made)
        fun view hview => ?_
      have hnew : Made.PassesOn (.new (.inl view)) := hview
      exact ih (Except.ok made.length) (hnext _ rfl) (hmade.append hnew)
    | createBuilder identifier pathData =>
      refine .told (.constructBuilder context identifier pathData) (fun _ => hfail rfl made)
        fun builder hbuilder => ?_
      have hnew : Made.PassesOn (.new (.inr builder)) := hbuilder
      exact ih (Except.ok made.length) (hnext _ rfl) (hmade.append hnew)

/-! ## Views, pages and builders -/

theorem View.PassesOn.performs {view : View} (h : view.PassesOn) :
    (view.render context inner).Performs (fun _ => True) (view.expansion context told) := by
  obtain ⟨hprogram⟩ := h
  exact .bind ((hprogram context).performs hinner (List.forall_mem_nil _)) fun _ _ => .pure trivial

end Inner

/-- A page whose components pass errors on. -/
def Page.PassesOn (page : Page Made) : Prop :=
  ∀ tag component, page.component? tag = some component → component.PassesOn

/-- The components that calls put on a page have numbers. -/
theorem PageCall.mem_of_fetch? {made : List Made} {calls : List (PageCall Nat)}
    {fetched : List (PageCall Made)} (h : calls.mapM (fetch? made) = some fetched) {tag : String}
    {component : Made} (hmem : .register tag component ∈ fetched) : component ∈ made := by
  induction calls generalizing fetched with
  | nil =>
    cases h
    cases hmem
  | cons call calls ih =>
    simp only [List.mapM_cons, Option.bind_eq_bind, Option.bind_eq_some_iff] at h
    obtain ⟨first, hfirst, rest, hrest, hall⟩ := h
    cases hall
    rcases List.mem_cons.mp hmem with rfl | hmem
    · cases call with
      | setMaster source => cases hfirst
      | register other number =>
        obtain ⟨found, hfound, hcall⟩ := Option.map_eq_some_iff.mp hfirst
        cases hcall
        exact List.mem_of_getElem? hfound
    · exact ih hrest hmem

section Inner

variable {inner : Inner} {told : InnerExpansion} (hinner : inner.Performs told)

include hinner

/-- Answering a tag performs what it is replaced by. -/
theorem Page.PassesOn.answerTag_performs {page : Page Made} (h : page.PassesOn) (tag : String)
    (seen : List String) :
    ((page.map (Made.ready inner)).answerTag context inner tag seen).Performs (fun _ => True)
      ((page.map (Made.told told)).answer context told tag seen) := by
  unfold Page.answerTag Page.answer
  rw [component?_map, component?_map]
  cases hcomponent : page.component? tag with
  | some component =>
    have hpasses := h tag component hcomponent
    cases component with
    | view view => exact hinner.view hpasses
    | builder name built => exact .bind (.measure _) fun _ _ => hinner.builder hpasses _
  | none =>
    intro start hstart
    simp only [Option.map_none]
    rw [Expansion.perform_bind, Render.bind_apply, Render.bind_apply,
      show (get : Render Rendering) start = (.ok start, start) from rfl,
      show Expansion.shared.perform start = (.ok start.shared, start) from rfl]
    dsimp only
    cases hget : start.shared.builders.get? tag with
    | none => exact ⟨rfl, hstart, fun _ _ => trivial⟩
    | some descriptor =>
      have hmakes := hstart.builders.entries _ (Registry.mem_entries_of_get? hget)
      have hall := Render.Performs.bind (.measure (.nestedBuild .registry)) fun _ _ =>
        .bind (.constructFrom hmakes { request := context.request }) fun _ hbuilder =>
          hinner.builder hbuilder 0
      exact hall start hstart

/-- **Writing a page performs its expansion.** -/
theorem Page.PassesOn.performs {page : Page Made} (h : page.PassesOn) (builder : String) :
    ((page.map (Made.ready inner)).render context inner builder).Performs (fun _ => True)
      ((page.map (Made.told told)).expansion context told builder) := by
  have honTag (tag : String) (seen : List String) :
      (do
        (page.map (Made.ready inner)).answerTag context inner tag seen
        return tag :: seen
        : Render (List String)).Performs (fun _ => True)
        ((page.map (Made.told told)).replace context told tag seen) :=
    .bind (h.answerTag_performs hinner tag seen) fun _ _ => .pure trivial
  unfold Page.render Page.expansion
  rw [show (page.map (Made.ready inner)).master = page.master from rfl,
    show (page.map (Made.told told)).master = page.master from rfl]
  cases page.master with
  | none => exact .error _
  | some source =>
    cases source with
    | file name => exact .scanTemplate honTag context name []
    | text text => exact .scanInline honTag context text []

/-- **Running a builder's hooks and writing its page performs its expansion.** -/
theorem Builder.PassesOn.performs {builder : Builder} (h : builder.PassesOn) (cycle : Nat) :
    (builder.build context inner cycle).Performs (fun _ => True)
      (builder.expansion context told cycle) := by
  obtain ⟨hprepare, hmodel, hcompose⟩ := h
  rw [Builder.build, Builder.page, Builder.calls, Builder.expansion]
  simp only [bind_assoc]
  refine .bind ((hprepare context cycle).performs hinner (List.forall_mem_nil _))
    fun prepared hprepared => ?_
  refine .bind ((hmodel context cycle prepared.1).performs hinner hprepared)
    fun modelled hmodelled => ?_
  refine .bind ((hcompose context cycle modelled.1.1 modelled.1.2).performs hinner hmodelled)
    fun composed hcomposed => ?_
  obtain ⟨calls, made⟩ := composed
  dsimp only
  cases hcalls : calls.mapM (PageCall.fetch? made) with
  | none => exact .error .panic
  | some fetched =>
    rw [pure_bind]
    have hpage : (({} : Page Made).after fetched).PassesOn := fun tag component hcomponent =>
      hcomposed component
        (PageCall.mem_of_fetch? hcalls (Page.mem_of_component?_after hcomponent))
    exact hpage.performs hinner _

end Inner

/-- What components refer to performs what it expands to, however deep it may be nested. -/
theorem Inner.performs_level (context : Context) (depth : Nat) :
    (Inner.level context depth).Performs (InnerExpansion.level context depth) := by
  induction depth with
  | zero => exact ⟨fun _ => .error .tooDeep, fun _ _ => .error .tooDeep⟩
  | succ depth ih => exact ⟨fun h => h.performs ih, fun h => h.performs ih⟩

end Folio
