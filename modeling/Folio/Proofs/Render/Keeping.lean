import Folio.Proofs.Registry.Session
import Folio.Proofs.Render.Congruence

/-!
# What rendering keeps does not show

Rendering leaves constructors with the registries and remembers where templates are. What is
rendered later is the same, however much of this was left before.

* `Registry.Filled`: a registry with kept constructors; it answers as a look-up without them does.
* `TemplateStore.Recalls`: remembered places are those that a search finds.
* `Ground`, **`Ground.Keeps`**: what no request changes, and what may outlive requests.
* `Accords`: two runs that do the same, from two renderings.
* **`Render.Alike`**: the same but for what outlives requests, from whatever was left before.
* **`Render.Alike.congruence`**: this respects sequence, errors and the single steps, and so all
  that is rendered is like itself.
-/

namespace Folio

/-! ## Registries -/

section Filled

variable {α : Type} {next : Nat} {made : List (Descriptor α)} {registry origin : Registry α}

/-- **A registry that was only used.** It differs from `origin` at most in what it keeps, and this
is coherent. -/
structure Registry.Filled (made : List (Descriptor α)) (registry origin : Registry α) : Prop where
  kind : registry.kind = origin.kind
  entries : registry.entries = origin.entries
  coherent : registry.Coherent made

namespace Registry.Filled

theorem get? (h : registry.Filled made origin) (identifier : String) :
    registry.get? identifier = origin.get? identifier := by
  unfold Registry.get?
  rw [h.entries]

theorem mem_made (h : registry.Filled made origin) {identifier : String}
    {descriptor : Descriptor α} (hget : origin.get? identifier = some descriptor) :
    descriptor ∈ made := by
  rw [← h.get?] at hget
  exact h.coherent.entries _ (mem_entries_of_get? hget)

theorem construct (h : registry.Filled made origin) {descriptor : Descriptor α}
    (hmade : descriptor ∈ made) (args : ConstructorArgs) :
    (registry.construct descriptor args).2.Filled made origin :=
  ⟨(construct_kind _ _).trans h.kind, (construct_entries _ _).trans h.entries,
    h.coherent.construct hmade args⟩

/-- What is constructed by identifier is what a look-up gives. -/
theorem create (hnumbered : Numbered next made) (h : registry.Filled made origin)
    (identifier : String) (args : ConstructorArgs) :
    (registry.create identifier args).1 = origin.lookUp identifier args ∧
      (registry.create identifier args).2.Filled made origin := by
  unfold Registry.create lookUp
  rw [h.get?, h.kind]
  split
  · exact ⟨rfl, h⟩
  · cases hget : origin.get? identifier with
    | none => exact ⟨rfl, h⟩
    | some descriptor =>
      have hmade := h.mem_made hget
      exact ⟨construct_eq hnumbered h.coherent hmade args, h.construct hmade args⟩

end Registry.Filled

end Filled

/-! ## Templates -/

/-- **What is remembered is what would be found**, where a search begins as the store or the hint
says. -/
def TemplateStore.Recalls (store : TemplateStore) (hint : String) (located : Located) : Prop :=
  match store with
  | .memory _ => True
  | .folder rootFolder disk => ∀ name path, located.path? name = some path →
    search disk (rootFolder.getD hint) name = some path

theorem Located.path?_append {located : Located} {name other path : String}
    (h : located.path? name = none) :
    Located.path? (located ++ [(name, path)]) other =
      if other = name then some path else located.path? other := by
  unfold path? at h ⊢
  rw [List.find?_append, List.find?_singleton]
  by_cases hother : other = name
  · subst hother
    rw [Option.map_eq_none_iff.mp h, if_pos rfl]
    simp
  · simp [hother, Ne.symm hother]

/-- The place of a template is the same whatever is remembered, and is remembered rightly. -/
theorem locate_recalls {rootFolder : Option String} {disk : Disk} {hint : String}
    {located : Located} (h : (TemplateStore.folder rootFolder disk).Recalls hint located)
    (name : String) :
    (locate rootFolder disk located name hint).1 = (locate rootFolder disk [] name hint).1 ∧
      (TemplateStore.folder rootFolder disk).Recalls hint
        (locate rootFolder disk located name hint).2 := by
  unfold locate
  dsimp only
  split
  · exact ⟨rfl, h⟩
  split
  · exact ⟨rfl, h⟩
  rw [show Located.path? [] name = none from rfl]
  cases hpath : located.path? name with
  | some path =>
    rw [h name path hpath]
    exact ⟨rfl, h⟩
  | none =>
    cases hsearch : search disk (rootFolder.getD hint) name with
    | none => exact ⟨rfl, h⟩
    | some path =>
      refine ⟨rfl, fun other place hother => ?_⟩
      rw [Located.path?_append hpath] at hother
      split at hother
      · next hsame => rw [hsame, hsearch, hother]
      · exact h other place hother

/-- A template is the same stream whatever is remembered. -/
theorem TemplateStore.Recalls.openTemplate {store : TemplateStore} {hint : String}
    {located : Located} (h : store.Recalls hint located) (name : String) :
    (store.openTemplate located name hint).1 = (store.openTemplate [] name hint).1 ∧
      store.Recalls hint (store.openTemplate located name hint).2 := by
  cases store with
  | memory templates =>
    unfold TemplateStore.openTemplate
    dsimp only
    cases memory? templates name <;> exact ⟨rfl, trivial⟩
  | folder rootFolder disk =>
    obtain ⟨hsame, hrecalls⟩ := locate_recalls h name
    unfold TemplateStore.openTemplate
    dsimp only
    revert hsame hrecalls
    rcases locate rootFolder disk located name hint with ⟨outcome, after⟩
    rcases locate rootFolder disk [] name hint with ⟨outcome', after'⟩
    rintro (rfl : outcome = outcome') hrecalls
    cases outcome with
    | error e => exact ⟨rfl, hrecalls⟩
    | ok path =>
      dsimp only
      rcases disk.openFile path with _ | _ | _ <;> exact ⟨rfl, hrecalls⟩

/-! ## What outlives requests -/

/-- **What no request changes**: what there is before the first of them, where templates come from,
and the descriptors that were made. -/
structure Ground where
  shared : Shared
  templates : TemplateStore
  /-- Where the search for templates begins. -/
  searchRoot : String
  views : List (Descriptor View)
  builders : List (Descriptor Builder)
  numberedViews : ∃ next, Numbered next views
  numberedBuilders : ∃ next, Numbered next builders

/-- **What may outlive requests.** -/
structure Ground.Keeps (ground : Ground) (shared : Shared) : Prop where
  views : shared.views.Filled ground.views ground.shared.views
  builders : shared.builders.Filled ground.builders ground.shared.builders
  located : ground.templates.Recalls ground.searchRoot shared.located

/-- Other places may be remembered. -/
theorem Ground.Keeps.relocated {ground : Ground} {shared : Shared} (h : ground.Keeps shared)
    {located : Located} (hlocated : ground.templates.Recalls ground.searchRoot located) :
    ground.Keeps { shared with located := located } :=
  ⟨h.views, h.builders, hlocated⟩

/-- Other constructors of builders may be kept. -/
theorem Ground.Keeps.refilled {ground : Ground} {shared : Shared} (h : ground.Keeps shared)
    {builders : Registry Builder}
    (hbuilders : builders.Filled ground.builders ground.shared.builders) :
    ground.Keeps { shared with builders := builders } :=
  ⟨h.views, hbuilders, h.located⟩

/-- The request is rendered with the templates of the ground. -/
structure Ground.Under (ground : Ground) (context : Context) : Prop where
  templates : context.templates = ground.templates
  searchRoot : context.searchRoot = ground.searchRoot

/-! ## Likeness -/

/-- **Two runs from two renderings do the same**: they end alike, their sinks are the same, and each
adds the same to its journal and to its measurements. -/
structure Accords {α : Type} (start other : Rendering) (run again : Except Failure α × Rendering) :
    Prop where
  result : run.1 = again.1
  sink : run.2.sink = again.2.sink
  journal : ∃ notes, run.2.journal = notes ++ start.journal ∧
    again.2.journal = notes ++ other.journal
  measurements : ∃ more, run.2.measurements = more ++ start.measurements ∧
    again.2.measurements = more ++ other.measurements

/-- **Renderings that do the same from whatever was left before**, and leave what may outlive
requests. -/
def Render.Alike (ground : Ground) (α : Type) (x y : Render α) : Prop :=
  ∀ start other : Rendering, ground.Keeps start.shared → ground.Keeps other.shared →
    start.sink = other.sink → Accords start other (x start) (y other) ∧
      ground.Keeps (x start).2.shared ∧ ground.Keeps (y other).2.shared

section Likeness

variable {ground : Ground} {α β : Type}

/-- Runs that do the same go on doing the same. -/
theorem Accords.trans {start other : Rendering} {run again : Except Failure α × Rendering}
    {last final : Except Failure β × Rendering} (h : Accords start other run again)
    (hlast : Accords run.2 again.2 last final) : Accords start other last final := by
  obtain ⟨notes, hnotes, hnotes'⟩ := h.journal
  obtain ⟨more, hmore, hmore'⟩ := h.measurements
  obtain ⟨later, hlater, hlater'⟩ := hlast.journal
  obtain ⟨further, hfurther, hfurther'⟩ := hlast.measurements
  refine ⟨hlast.result, hlast.sink, ⟨later ++ notes, ?_, ?_⟩, ⟨further ++ more, ?_, ?_⟩⟩
  · rw [hlater, hnotes, List.append_assoc]
  · rw [hlater', hnotes', List.append_assoc]
  · rw [hfurther, hmore, List.append_assoc]
  · rw [hfurther', hmore', List.append_assoc]

namespace Render.Alike

theorem bind {x y : Render α} {f g : α → Render β} (hxy : Alike ground α x y)
    (hfg : ∀ a, Alike ground β (f a) (g a)) : Alike ground β (x >>= f) (y >>= g) := by
  intro start other hstart hother hsink
  obtain ⟨hfirst, hkeeps, hkeeps'⟩ := hxy start other hstart hother hsink
  rw [bind_apply, bind_apply]
  revert hfirst hkeeps hkeeps'
  rcases x start with ⟨outcome, next⟩
  rcases y other with ⟨outcome', next'⟩
  intro hfirst hkeeps hkeeps'
  -- Both fail with the same failure, or both go on with the same value.
  obtain rfl : outcome = outcome' := hfirst.result
  cases outcome with
  | error e => exact ⟨⟨rfl, hfirst.sink, hfirst.journal, hfirst.measurements⟩, hkeeps, hkeeps'⟩
  | ok a =>
    obtain ⟨hnext, hlast⟩ := hfg a next next' hkeeps hkeeps' hfirst.sink
    exact ⟨hfirst.trans hnext, hlast⟩

theorem attempt {x y : Render α} (hxy : Alike ground α x y) :
    Alike ground _ (Render.attempt x) (Render.attempt y) := by
  intro start other hstart hother hsink
  obtain ⟨hrun, hkeeps⟩ := hxy start other hstart hother hsink
  unfold Render.attempt
  revert hrun hkeeps
  rcases x start with ⟨outcome, next⟩
  rcases y other with ⟨outcome', next'⟩
  intro hrun hkeeps
  obtain rfl : outcome = outcome' := hrun.result
  have hsame := hrun.sink
  rcases outcome with (_ | _ | _) | _ <;>
    exact ⟨⟨rfl, hrun.sink, hrun.journal, hrun.measurements⟩, hkeeps⟩

theorem capture {x y : Render Unit} (hxy : Alike ground Unit x y) :
    Alike ground _ (Render.capture x) (Render.capture y) := by
  intro start other hstart hother hsink
  obtain ⟨hrun, hkeeps⟩ := hxy.attempt { start with sink := {} } { other with sink := {} } hstart
    hother rfl
  unfold Render.capture
  revert hrun hkeeps
  rcases Render.attempt x _ with ⟨outcome, next⟩
  rcases Render.attempt y _ with ⟨outcome', next'⟩
  intro hrun hkeeps
  obtain rfl : outcome = outcome' := hrun.result
  have htext : next.sink.text = next'.sink.text := congrArg Sink.text hrun.sink
  dsimp only
  rw [htext, hsink]
  exact ⟨⟨rfl, rfl, hrun.journal, hrun.measurements⟩, hkeeps⟩

theorem ofExcept (outcome : Except Failure α) :
    Alike ground α (.ofExcept outcome) (.ofExcept outcome) := fun _ _ hstart hother hsink =>
  ⟨⟨rfl, hsink, ⟨[], rfl, rfl⟩, ⟨[], rfl, rfl⟩⟩, hstart, hother⟩

theorem write (text : String) : Alike ground Unit (.write text) (.write text) := by
  intro start other hstart hother hsink
  unfold Render.write
  rw [hsink]
  rcases other.sink.offer text with ⟨_ | _, sink⟩ <;>
    exact ⟨⟨rfl, rfl, ⟨[], rfl, rfl⟩, ⟨[], rfl, rfl⟩⟩, hstart, hother⟩

theorem note (entry : Note) : Alike ground Unit (.note entry) (.note entry) :=
  fun _ _ hstart hother hsink =>
    ⟨⟨rfl, hsink, ⟨[entry], rfl, rfl⟩, ⟨[], rfl, rfl⟩⟩, hstart, hother⟩

theorem measure (measurement : Measurement) :
    Alike ground Unit (.measure measurement) (.measure measurement) :=
  fun _ _ hstart hother hsink =>
    ⟨⟨rfl, hsink, ⟨[], rfl, rfl⟩, ⟨[measurement], rfl, rfl⟩⟩, hstart, hother⟩

theorem forM {ι : Type} (xs : List ι) {f g : ι → Render Unit}
    (h : ∀ x, Alike ground Unit (f x) (g x)) : Alike ground Unit (xs.forM f) (xs.forM g) := by
  induction xs with
  | nil => exact ofExcept (.ok ())
  | cons x xs ih => exact bind (h x) fun _ => ih

/-- What only replaces what outlives the request, and gives the same whatever it was. -/
theorem sharing {x : Render α} (result : Except Failure α)
    (h : ∀ start, ground.Keeps start.shared → ∃ shared,
      x start = (result, { start with shared := shared }) ∧ ground.Keeps shared) :
    Alike ground α x x := by
  intro start other hstart hother hsink
  obtain ⟨shared, hrun, hkeeps⟩ := h start hstart
  obtain ⟨shared', hrun', hkeeps'⟩ := h other hother
  rw [hrun, hrun']
  exact ⟨⟨rfl, hsink, ⟨[], rfl, rfl⟩, ⟨[], rfl, rfl⟩⟩, hkeeps, hkeeps'⟩

/-- A template is the same whatever is remembered. -/
theorem openTemplate {context : Context} (hcontext : ground.Under context) (name : String) :
    Alike ground (List Signal) (.openTemplate context name) (.openTemplate context name) := by
  refine sharing ((ground.templates.openTemplate [] name ground.searchRoot).1.mapError .error)
    fun start h => ?_
  obtain ⟨hsame, hrecalls⟩ := h.located.openTemplate name
  refine ⟨_, ?_, h.relocated hrecalls⟩
  rw [Render.openTemplate, hcontext.templates, hcontext.searchRoot, ← hsame]

/-- A view is the same whatever its registry keeps. -/
theorem constructView (context : Context) (identifier : String) (model : Option Model) :
    Alike ground View (.constructView context identifier model)
      (.constructView context identifier model) := by
  obtain ⟨next, hnumbered⟩ := ground.numberedViews
  let args : ConstructorArgs := { request := context.request, model := model }
  refine sharing ((ground.shared.views.lookUp identifier args).mapError fun e =>
    .error (.configuration e)) fun start h => ?_
  obtain ⟨hsame, hfilled⟩ := h.views.create hnumbered identifier args
  rw [← hsame]
  exact ⟨_, rfl, hfilled, h.builders, h.located⟩

/-- A builder is the same whatever its registry keeps, and so are the lines of its construction. -/
theorem construct {make : Registry Builder → Except ConfigurationError Builder × Registry Builder}
    {answer : Except ConfigurationError Builder}
    (h : ∀ {builders : Registry Builder}, builders.Filled ground.builders ground.shared.builders →
      (make builders).1 = answer ∧
        (make builders).2.Filled ground.builders ground.shared.builders) :
    Alike ground Builder (.constructBy make) (.constructBy make) := by
  intro start other hstart hother hsink
  obtain ⟨hanswer, hfilled⟩ := h hstart.builders
  obtain ⟨hanswer', hfilled'⟩ := h hother.builders
  unfold constructBy
  revert hanswer hfilled hanswer' hfilled'
  rcases make start.shared.builders with ⟨outcome, builders⟩
  rcases make other.shared.builders with ⟨outcome', builders'⟩
  rintro (rfl : outcome = answer) hfilled (rfl : outcome' = outcome) hfilled'
  have hkeeps := hstart.refilled hfilled
  have hkeeps' := hother.refilled hfilled'
  cases outcome' with
  | error e => exact ⟨⟨rfl, hsink, ⟨[], rfl, rfl⟩, ⟨[], rfl, rfl⟩⟩, hkeeps, hkeeps'⟩
  | ok builder =>
    have hnoted : Alike ground Builder (noteCreated builder) (noteCreated builder) :=
      (forM builder.created fun line => note (.line line)).bind fun _ => ofExcept (.ok builder)
    obtain ⟨hrun, hlast⟩ := hnoted
      { start with shared := { start.shared with builders := builders } }
      { other with shared := { other.shared with builders := builders' } } hkeeps hkeeps' hsink
    exact ⟨⟨hrun.result, hrun.sink, hrun.journal, hrun.measurements⟩, hlast⟩

theorem constructFrom {descriptor : Descriptor Builder} (hmade : descriptor ∈ ground.builders)
    (args : ConstructorArgs) :
    Alike ground Builder (.constructFrom descriptor args) (.constructFrom descriptor args) := by
  obtain ⟨next, hnumbered⟩ := ground.numberedBuilders
  exact construct fun h =>
    ⟨Registry.construct_eq hnumbered h.coherent hmade args, h.construct hmade args⟩

/-- **Likeness is a congruence.** -/
theorem congruence {context : Context} (hcontext : ground.Under context) :
    RenderRel.Congruence (Alike ground) context where
  bind := bind
  attempt := attempt
  capture := capture
  ofExcept := ofExcept
  write := write
  note := note
  measure := measure
  openTemplate := openTemplate hcontext
  constructView := constructView context
  constructBuilder identifier pathData := by
    obtain ⟨next, hnumbered⟩ := ground.numberedBuilders
    exact construct fun h => h.create hnumbered identifier _
  answerRegistered {f g} hfg tag := by
    intro start other hstart hother hsink
    -- The registries have the same descriptor, since they differ only in what they keep.
    rw [Render.answerRegistered_apply, Render.answerRegistered_apply, hstart.builders.get?,
      hother.builders.get?]
    cases hget : ground.shared.builders.get? tag with
    | none => exact ofExcept _ _ _ hstart hother hsink
    | some descriptor =>
      have hmade := hstart.builders.mem_made hget
      exact bind (measure _) (fun _ => bind (constructFrom hmade _) hfg) _ _ hstart hother hsink

end Render.Alike

end Likeness

end Folio
