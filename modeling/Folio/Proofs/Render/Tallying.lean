import Folio.Proofs.Render.Preserving
import Folio.Proofs.Render.Watching

/-!
# Counted and sighted builds

A watched rendering is the plain one. The nested builds that are counted in its course are the
cycles that tags start, and the builders that tags are refused, which have no constructor for a
request alone.

* `Render.Quiet`: renderings that count nothing.
* `Tallies`: what is counted is what is sighted; **`Watched.Watches`**: the watched rendering is the
  plain one, and its counts tally.
* `Watches.bind`, `Watches.attempt`, `Watches.capture`, `Starts.countedPage`,
  `Starts.countedRegistry`: the rules.
* **`Program.watched_watches`**, `View.watched_watches`, **`Builder.watched_starts`**: they hold of
  programs, views and builders, and `WatchedInner.level_watches` of what these refer to.
-/

namespace Folio

/-! ## What counts nothing -/

/-- A rendering that counts nothing. -/
def Render.Quiet {α : Type} (x : Render α) : Prop :=
  ∀ start, (x start).2.measurements = start.measurements

namespace Render.Quiet

variable {α β : Type}

theorem bind {x : Render α} {f : α → Render β} (h : x.Quiet) (hf : ∀ a, (f a).Quiet) :
    (x >>= f).Quiet := by
  intro start
  have hfirst := h start
  rw [bind_apply]
  revert hfirst
  rcases x start with ⟨e | a, next⟩
  · exact id
  · exact fun hfirst => (hf a next).trans hfirst

theorem attempt {x : Render α} (h : x.Quiet) : (Render.attempt x).Quiet := by
  intro start
  have hfirst := h start
  unfold Render.attempt
  revert hfirst
  rcases x start with ⟨(_ | _ | _) | _, next⟩ <;> exact id

theorem ofExcept (outcome : Except Failure α) : (Render.ofExcept outcome).Quiet := fun _ => rfl

theorem forM {ι : Type} (xs : List ι) {f : ι → Render Unit} (h : ∀ x, (f x).Quiet) :
    (xs.forM f).Quiet := by
  induction xs with
  | nil => exact ofExcept (.ok ())
  | cons x xs ih => exact bind (h x) fun _ => ih

theorem write (text : String) : (Render.write text).Quiet := by
  intro start
  unfold Render.write
  rcases start.sink.offer text with ⟨_ | _, sink⟩ <;> rfl

theorem note (entry : Note) : (Render.note entry).Quiet := fun _ => rfl

theorem openTemplate (context : Context) (name : String) :
    (Render.openTemplate context name).Quiet := fun _ => rfl

theorem constructView (context : Context) (identifier : String) (model : Option Model) :
    (Render.constructView context identifier model).Quiet := fun _ => rfl

theorem constructBy
    (make : Registry Builder → Except ConfigurationError Builder × Registry Builder) :
    (Render.constructBy make).Quiet := by
  intro start
  unfold Render.constructBy
  rcases make start.shared.builders with ⟨_ | builder, builders⟩
  · rfl
  · exact bind (forM builder.created fun line => note (.line line))
      (fun _ => ofExcept (.ok builder)) _

end Render.Quiet

/-! ## Want of a constructor -/

/-- A builder is refused only where its descriptor has no constructor. -/
theorem Render.constructFrom_refused {descriptor : Descriptor Builder} {args : ConstructorArgs}
    {start next : Rendering} {e : Failure}
    (h : constructFrom descriptor args start = (.error e, next)) :
    descriptor.constructor? args.signature = none := by
  have hresult := constructBy_result (fun builders => builders.construct descriptor args) start
  rw [show constructBy _ start = (.error e, next) from h] at hresult
  unfold Registry.construct at hresult
  dsimp only at hresult
  cases hown : descriptor.constructor? args.signature with
  | none => rfl
  | some constructor =>
    rw [hown] at hresult
    cases hkept : start.shared.builders.constructor? descriptor.id args.signature <;>
      rw [hkept] at hresult <;> cases hresult

/-! ## Tallies -/

/-- **The counted nested builds are those that were sighted**: as many of builders registered on
pages as there were cycles of such builders started by tags, and as many of builders registered with
the site as there were cycles of such builders started by tags and builders refused. Builders are
refused for want of a constructor. Nothing else is counted. -/
structure Tallies (taken : List Measurement) (seen : List Sighting) : Prop where
  page : taken.count (.nestedBuild .page) = cyclesBy (.tag .page) seen
  registry : taken.count (.nestedBuild .registry) =
    cyclesBy (.tag .registry) seen + (refusals seen).length
  refused : ∀ descriptor ∈ refusals seen, descriptor.constructor? .context = none
  nested : ∀ measurement ∈ taken, ∃ source, measurement = .nestedBuild source

theorem cyclesBy_append (starter : Starter) (seen later : List Sighting) :
    cyclesBy starter (seen ++ later) = cyclesBy starter seen + cyclesBy starter later :=
  List.countP_append

theorem refusals_append (seen later : List Sighting) :
    refusals (seen ++ later) = refusals seen ++ refusals later :=
  List.filterMap_append

namespace Tallies

variable {taken more : List Measurement} {seen later : List Sighting}

theorem nil : Tallies [] [] :=
  ⟨rfl, rfl, List.forall_mem_nil _, List.forall_mem_nil _⟩

/-- A cycle that a tag starts. -/
theorem cycle (source : BuildSource) : Tallies [.nestedBuild source] [.cycle (.tag source)] := by
  refine ⟨?_, ?_, List.forall_mem_nil _, List.forall_mem_singleton.mpr ⟨source, rfl⟩⟩ <;>
    cases source <;> rfl

/-- A builder that a tag is refused. -/
theorem refusal {descriptor : Descriptor Builder} (h : descriptor.constructor? .context = none) :
    Tallies [.nestedBuild .registry] [.refused descriptor] :=
  ⟨rfl, rfl, List.forall_mem_singleton.mpr h, List.forall_mem_singleton.mpr ⟨.registry, rfl⟩⟩

/-- The measurements stand latest first. -/
theorem andThen (h : Tallies taken seen) (hmore : Tallies more later) :
    Tallies (more ++ taken) (seen ++ later) := by
  have := h.page
  have := h.registry
  have := hmore.page
  have := hmore.registry
  refine ⟨?_, ?_, ?_, List.forall_mem_append.mpr ⟨hmore.nested, h.nested⟩⟩
  · rw [List.count_append, cyclesBy_append]
    omega
  · rw [List.count_append, cyclesBy_append, refusals_append, List.length_append]
    omega
  · rw [refusals_append]
    exact List.forall_mem_append.mpr ⟨h.refused, hmore.refused⟩

/-- A cycle that no tag starts is not counted. -/
theorem uncounted (h : Tallies taken seen) {starter : Starter}
    (hstarter : ∀ source, starter ≠ .tag source) : Tallies taken (.cycle starter :: seen) := by
  have hcycle (source : BuildSource) :
      cyclesBy (.tag source) (.cycle starter :: seen) = cyclesBy (.tag source) seen :=
    List.countP_cons_of_neg (by simpa using hstarter source)
  exact ⟨(hcycle .page).symm ▸ h.page, (hcycle .registry).symm ▸ h.registry, h.refused, h.nested⟩

end Tallies

namespace Watched

variable {α β σ : Type}

/-- **The watched rendering is the plain one**, and what is counted in its course tallies with what
is sighted. -/
def Watches (x : Watched α) (y : Render α) : Prop :=
  ∀ start, ∃ taken seen, x start = (y start, seen) ∧
    (y start).2.measurements = taken ++ start.measurements ∧ Tallies taken seen

theorem bind_apply (x : Watched α) (f : α → Watched β) (start : Rendering) :
    (x >>= f) start =
      match x start with
      | ((.ok a, next), seen) => ((f a next).1, seen ++ (f a next).2)
      | ((.error e, next), seen) => ((.error e, next), seen) := rfl

/-! ## The rules -/

namespace Watches

theorem unwatched {x : Watched α} {y : Render α} (h : x.Watches y) : x.unwatched = y := by
  funext start
  obtain ⟨taken, seen, hrun, -⟩ := h start
  exact congrArg Prod.fst hrun

theorem bind {x : Watched α} {y : Render α} {f : α → Watched β} {g : α → Render β}
    (h : x.Watches y) (hfg : ∀ a, (f a).Watches (g a)) : (x >>= f).Watches (y >>= g) := by
  intro start
  obtain ⟨taken, seen, hrun, htaken, htallies⟩ := h start
  rw [bind_apply, Render.bind_apply, hrun]
  revert htaken
  rcases y start with ⟨e | a, next⟩
  · exact fun htaken => ⟨taken, seen, rfl, htaken, htallies⟩
  · intro htaken
    obtain ⟨more, later, hnext, hmore, hlater⟩ := hfg a next
    refine ⟨more ++ taken, seen ++ later, ?_, ?_, htallies.andThen hlater⟩
    · simp only [hnext]
    · rw [hmore, htaken, List.append_assoc]

theorem plain {y : Render α} (h : y.Quiet) : (Watched.plain y).Watches y :=
  fun start => ⟨[], [], rfl, h start, .nil⟩

theorem pure (a : α) : (Pure.pure a : Watched α).Watches (Pure.pure a) :=
  .plain (.ofExcept (.ok a))

theorem attempt {x : Watched α} {y : Render α} (h : x.Watches y) :
    x.attempt.Watches (Render.attempt y) := by
  intro start
  obtain ⟨taken, seen, hrun, htaken, htallies⟩ := h start
  refine ⟨taken, seen, ?_, ?_, htallies⟩
  · rw [Watched.attempt, h.unwatched, hrun]
  · unfold Render.attempt
    revert htaken
    rcases y start with ⟨(_ | _ | _) | _, next⟩ <;> exact id

theorem capture {x : Watched Unit} {y : Render Unit} (h : x.Watches y) :
    x.capture.Watches (Render.capture y) := by
  intro start
  obtain ⟨taken, seen, hrun, htaken, htallies⟩ := h.attempt { start with sink := {} }
  refine ⟨taken, seen, ?_, htaken, htallies⟩
  rw [Watched.capture, h.unwatched, show (x { start with sink := {} }).2 = seen from
    congrArg Prod.snd hrun]

/-! ### Templates -/

section

variable {onTag : String → σ → Watched σ} {answer : String → σ → Render σ}
  (h : ∀ tag memory, (onTag tag memory).Watches (answer tag memory))

include h

theorem answerEvents (events : List Event) (memory : σ) :
    (Folio.answerEvents (fun text => Watched.plain (Render.write text)) onTag events
      memory).Watches (Folio.answerEvents Render.write answer events memory) := by
  induction events generalizing memory with
  | nil => exact pure memory
  | cons event events ih =>
    cases event with
    | literal text => exact bind (plain (.write text)) fun _ => ih memory
    | tag name => exact bind (h name memory) ih

theorem scanTemplate (context : Context) (name : String) (memory : σ) :
    (Watched.scanTemplate context name onTag memory).Watches
      (Render.scanTemplate context name answer memory) := by
  rw [Render.scanTemplate_eq]
  exact bind (plain (.openTemplate context name)) fun _ =>
    bind (answerEvents h _ memory) fun _ => plain (.ofExcept _)

theorem scanInline (context : Context) (text : String) (memory : σ) :
    (Watched.scanInline context text onTag memory).Watches
      (Render.scanInline context text answer memory) := by
  rw [Render.scanInline_eq]
  exact bind (answerEvents h _ memory) fun _ => pure ()

end

end Watches

/-! ### Cycles -/

/-- **It is written down first who starts the cycle**; all that follows is watched. -/
def Starts (starter : Starter) (x : Watched Unit) (y : Render Unit) : Prop :=
  ∃ rest : Watched Unit, rest.Watches y ∧ x = do
    sight (.cycle starter)
    rest

namespace Starts

variable {x : Watched Unit} {y : Render Unit}

theorem run {starter : Starter} (h : Starts starter x y) (start : Rendering) :
    ∃ taken seen, x start = (y start, .cycle starter :: seen) ∧
      (y start).2.measurements = taken ++ start.measurements ∧ Tallies taken seen := by
  obtain ⟨rest, hrest, rfl⟩ := h
  obtain ⟨taken, seen, hrun, htaken, htallies⟩ := hrest start
  refine ⟨taken, seen, ?_, htaken, htallies⟩
  have hstart : (do sight (.cycle starter); rest : Watched Unit) start =
      ((rest start).1, [.cycle starter] ++ (rest start).2) := rfl
  rw [hstart, hrun]
  rfl

theorem uncounted {starter : Starter} (h : Starts starter x y)
    (hstarter : ∀ source, starter ≠ .tag source) : x.Watches y := by
  intro start
  obtain ⟨taken, seen, hrun, htaken, htallies⟩ := h.run start
  exact ⟨taken, _, hrun, htaken, htallies.uncounted hstarter⟩

/-- A builder registered on a page is counted before its cycle starts. -/
theorem countedPage (h : Starts (.tag .page) x y) :
    (do
      Watched.plain (Render.measure (.nestedBuild .page))
      x : Watched Unit).Watches
      (do
        Render.measure (.nestedBuild .page)
        y) := by
  intro start
  let counted : Rendering :=
    { start with measurements := .nestedBuild .page :: start.measurements }
  have hwatched : (do
      Watched.plain (Render.measure (.nestedBuild .page))
      x : Watched Unit) start = ((x counted).1, [] ++ (x counted).2) := rfl
  have hplain : (do
      Render.measure (.nestedBuild .page)
      y : Render Unit) start = y counted := rfl
  obtain ⟨taken, seen, hrun, htaken, htallies⟩ := h.run counted
  rw [hwatched, hplain, hrun]
  refine ⟨taken ++ [.nestedBuild .page], _, rfl, ?_, (Tallies.cycle .page).andThen htallies⟩
  rw [htaken, List.append_assoc]
  rfl

/-- A builder registered with the site is counted before it is constructed: either it is refused, or
its cycle starts. -/
theorem countedRegistry {build : Builder → Watched Unit} {plainBuild : Builder → Render Unit}
    (h : ∀ builder, Starts (.tag .registry) (build builder) (plainBuild builder))
    (descriptor : Descriptor Builder) (request : Request) :
    (do
      Watched.plain (Render.measure (.nestedBuild .registry))
      build (← constructFor descriptor { request := request }) : Watched Unit).Watches
      (do
        Render.measure (.nestedBuild .registry)
        plainBuild (← Render.constructFrom descriptor { request := request })) := by
  intro start
  let args : ConstructorArgs := { request := request }
  let counted : Rendering :=
    { start with measurements := .nestedBuild .registry :: start.measurements }
  have hwatched : (do
      Watched.plain (Render.measure (.nestedBuild .registry))
      build (← constructFor descriptor args) : Watched Unit) start =
        (constructFor descriptor args >>= build) counted := rfl
  have hplain : (do
      Render.measure (.nestedBuild .registry)
      plainBuild (← Render.constructFrom descriptor args) : Render Unit) start =
        (Render.constructFrom descriptor args >>= plainBuild) counted := rfl
  have hquiet : (Render.constructFrom descriptor args counted).2.measurements =
      counted.measurements := Render.Quiet.constructBy _ counted
  rw [hwatched, hplain, bind_apply, Render.bind_apply]
  unfold constructFor
  revert hquiet
  rcases hrun : Render.constructFrom descriptor args counted with ⟨e | builder, next⟩
  · intro hquiet
    exact ⟨[.nestedBuild .registry], [.refused descriptor], rfl, hquiet,
      .refusal (Render.constructFrom_refused hrun)⟩
  · intro hquiet
    obtain ⟨taken, seen, hrun, htaken, htallies⟩ := (h builder).run next
    refine ⟨taken ++ [.nestedBuild .registry], .cycle (.tag .registry) :: seen, ?_, ?_,
      (Tallies.cycle .registry).andThen htallies⟩
    · simp only [hrun]
      rfl
    · rw [htaken, show next.measurements = counted.measurements from hquiet, List.append_assoc]
      rfl

end Starts

end Watched

/-! ## All rendering is watched -/

/-- What is referred to is watched, and so is each cycle of a builder. -/
structure WatchedInner.Watches (inner : WatchedInner) (plain : Inner) : Prop where
  view : ∀ view, (inner.view view).Watches (plain.view view)
  builder : ∀ starter builder cycle, Watched.Starts starter (inner.builder starter builder cycle)
    (plain.builder builder cycle)

/-- A component and the same component, watched. -/
inductive WatchedReady.Watches : WatchedReady → Ready → Prop
  | view {x : Watched Unit} {y : Render Unit} (h : x.Watches y) : Watches (.view x) (.view y)
  | builder (name : String) {build : Nat → Watched Unit} {plain : Nat → Render Unit}
    (h : ∀ cycle, Watched.Starts (.tag .page) (build cycle) (plain cycle)) :
    Watches (.builder name build) (.builder name plain)

/-- A page and the same page, watched. -/
structure Page.Watches (page : Page WatchedReady) (plain : Page Ready) : Prop where
  master : page.master = plain.master
  component : ∀ tag, Option.Rel WatchedReady.Watches (page.component? tag) (plain.component? tag)

section

open Watched (Watches Starts)

variable (context : Context) {inner : WatchedInner} {plain : Inner} (hinner : inner.Watches plain)

include hinner

theorem WatchedInner.Watches.number (made : List Made) (number : Nat) :
    (inner.number made number).Watches (plain.number made number) := by
  unfold WatchedInner.number Inner.number
  cases made[number]? with
  | none => exact .plain (.ofExcept (.error .panic))
  | some component =>
    cases component with
    | view view => exact hinner.view view
    | builder name built => exact (hinner.builder .program built.1 built.2).uncounted nofun

/-- Whatever is asked for, its answer is watched. -/
theorem Ask.watched_watches {writes : Bool} (question : Ask writes) (made : List Made) :
    (question.watched context inner made).Watches (question.answer context plain made) := by
  have hplain {α β : Type} {x : Render α} (hx : x.Quiet) (f : Except RenderError α → β) :
      (Watched.plain (Render.attempt x >>= fun reply => pure (f reply))).Watches
        (Render.attempt x >>= fun reply => pure (f reply)) :=
    .plain (.bind (.attempt hx) fun _ => .ofExcept _)
  cases question with
  | write h text => exact hplain (.write text) _
  | render h number =>
    exact .bind (.attempt (hinner.number made number)) fun _ => .pure _
  | capture number => exact .bind (.capture (hinner.number made number)) fun _ => .pure _
  | note entry => exact .plain (.bind (.note entry) fun _ => .ofExcept _)
  | openTemplate name => exact hplain (.openTemplate context name) _
  | createView identifier model => exact hplain (.constructView context identifier model) _
  | createBuilder identifier pathData => exact hplain (.constructBy _) _

/-- **A program is watched.** -/
theorem Program.watched_watches {writes : Bool} {α : Type}
    (program : Program View Builder writes α) (made : List Made) :
    (program.watched context inner made).Watches (program.run context plain made) := by
  induction program generalizing made with
  | returns value => exact .pure (value, made)
  | fails error => exact .plain (.ofExcept (.error (.error error)))
  | panics => exact .plain (.ofExcept (.error .panic))
  | bring component next ih =>
    rw [watched, run]
    exact ih _ _
  | ask question next ih =>
    rw [watched, run]
    exact .bind (question.watched_watches context hinner made) fun _ => ih _ _

/-- A view is watched. -/
theorem View.watched_watches (view : View) :
    (view.watched context inner).Watches (view.render context plain) :=
  .bind ((view.program context).watched_watches context hinner []) fun _ => .pure ()

theorem Page.watchedAnswer_watches {page : Page WatchedReady} {ready : Page Ready}
    (h : page.Watches ready) (tag : String) (seen : List String) :
    (page.watchedAnswer context inner tag seen).Watches
      (ready.answerTag context plain tag seen) := by
  unfold watchedAnswer answerTag
  have hcomponent := h.component tag
  revert hcomponent
  cases page.component? tag <;> cases ready.component? tag <;> intro hcomponent <;>
    cases hcomponent
  case none.none =>
    refine .bind (.plain fun _ => rfl) fun rendering => ?_
    cases rendering.shared.builders.get? tag with
    | none => exact .pure ()
    | some descriptor =>
      exact Starts.countedRegistry (fun builder => hinner.builder (.tag .registry) builder 0)
        descriptor _
  case some.some h =>
    cases h with
    | view h => exact h
    | builder name h => exact (h _).countedPage

theorem Page.watched_watches {page : Page WatchedReady} {ready : Page Ready}
    (h : page.Watches ready) (builder : String) :
    (page.watched context inner builder).Watches (ready.render context plain builder) := by
  have hreplace (tag : String) (seen : List String) :
      (page.watchedReplace context inner tag seen).Watches
        (do
          ready.answerTag context plain tag seen
          return tag :: seen) :=
    .bind (watchedAnswer_watches context hinner h tag seen) fun _ => .pure _
  unfold Page.watched Page.render
  rw [h.master]
  cases ready.master with
  | none => exact .plain (.ofExcept _)
  | some source =>
    cases source with
    | file name => exact .scanTemplate hreplace context name []
    | text text => exact .scanInline hreplace context text []

/-- What is registered on a page is watched. -/
theorem WatchedInner.Watches.page (page : Page Made) :
    (page.map (Made.watched inner)).Watches (page.map (Made.ready plain)) := by
  refine ⟨rfl, fun tag => ?_⟩
  rw [Page.component?_map, Page.component?_map]
  cases page.component? tag with
  | none => exact .none
  | some component =>
    cases component with
    | view view => exact .some (.view (hinner.view view))
    | builder name built =>
      exact .some (.builder name fun more => hinner.builder (.tag .page) built.1 (built.2 + more))

theorem Builder.watchedCalls_watches (builder : Builder) (cycle : Nat) :
    (builder.watchedCalls context inner cycle).Watches (builder.calls context plain cycle) := by
  obtain ⟨name, created, prepare, model, compose⟩ := builder
  refine .bind ((prepare context cycle).watched_watches context hinner []) fun prepared => ?_
  refine .bind ((model context cycle prepared.1).watched_watches context hinner prepared.2)
    fun modelled => ?_
  refine .bind ((compose context cycle modelled.1.1 modelled.1.2).watched_watches context hinner
    modelled.2) fun composed => ?_
  obtain ⟨calls, made⟩ := composed
  dsimp only
  cases calls.mapM (PageCall.fetch? made) with
  | none => exact .plain (.ofExcept (.error .panic))
  | some calls => exact .pure _

/-- **A builder is watched**: it is written down who starts its cycle, and the cycle is watched. -/
theorem Builder.watched_starts (builder : Builder) (starter : Starter) (cycle : Nat) :
    Starts starter (builder.watched context inner starter cycle)
      (builder.build context plain cycle) := by
  refine ⟨_, ?_, rfl⟩
  rw [Builder.build, Builder.page, bind_assoc]
  refine .bind (builder.watchedCalls_watches context hinner cycle) fun calls => ?_
  rw [pure_bind]
  exact Page.watched_watches context hinner (hinner.page _) builder.name

end

theorem WatchedInner.level_watches (context : Context) (depth : Nat) :
    (WatchedInner.level context depth).Watches (Inner.level context depth) := by
  induction depth with
  | zero =>
    exact ⟨fun _ => .plain (.ofExcept (.error .tooDeep)),
      fun _ _ _ => ⟨_, .plain (.ofExcept (.error .tooDeep)), rfl⟩⟩
  | succ depth ih =>
    exact ⟨View.watched_watches context ih,
      fun starter builder cycle => Builder.watched_starts context ih builder starter cycle⟩

end Folio
