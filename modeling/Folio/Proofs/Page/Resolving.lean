import Folio.Proofs.Registry.Session
import Folio.Proofs.Render.Tallying

/-!
# What a tag stands for is what it is answered with

A tag is sorted into one of four kinds, and to be answered it is looked up once more. Both agree,
whatever the views and builders of a page do: a view of the page is rendered, a builder of the page
is built, a builder of the site is constructed and built, or nothing happens at all.

* `Meaning`: what the things registered on a page do; `Meaning.of`: what views and builders do.
* `Builder.build_eq`: the pages of builders are pages of such things.
* `classify_of_some`, `classify_of_none`: the kind of a tag, by what is found under it.
* `classify_register`, `classify_registered`: what a registration changes, on the page or with the
  site.
* `Render.BuildsAnew`: answering by a builder of the site.
* `Page.answerBy_view` and its like: the answer to a tag, by what is found under it.
* **`Page.classify_iff_answer`**: each kind of tags is answered in its own way.
-/

namespace Folio

variable {ν β : Type}

/-- What things registered on a page do, and what the things do that registries construct. -/
structure Meaning (ν β : Type) where
  view : ν → Render Unit
  /-- A builder is told how often it was built before. -/
  build : β → Nat → Render Unit
  inner : Inner

/-- What views and builders do; it is known of builders how often they were built before they were
registered. -/
def Meaning.of (inner : Inner) : Meaning View (Builder × Nat) where
  view := inner.view
  build := fun (nested, built) times => inner.builder nested (built + times)
  inner := inner

/-- A component ready to be rendered. -/
def Component.ready (meaning : Meaning ν β) : Component ν β → Ready
  | .view shown => .view (meaning.view shown)
  | .builder name nested => .builder name (meaning.build nested)

/-- The kind of the tags that stand for a component. -/
def Component.resolution : Component ν β → Resolution
  | .view _ => .subView
  | .builder .. => .subBuilder

/-- Answer a tag of a page whose things have a meaning. -/
def Page.answerBy (context : Context) (page : Page (Component ν β)) (tag : String)
    (seen : List String) (meaning : Meaning ν β) : Render Unit :=
  (page.map (Component.ready meaning)).answerTag context meaning.inner tag seen

/-- **The page of a builder** is what its hooks compose, ready to be rendered. -/
theorem Builder.build_eq (context : Context) (inner : Inner) (builder : Builder) (cycle : Nat) :
    builder.build context inner cycle = (do
      let page ← builder.page context inner cycle
      (page.map (Component.ready (.of inner))).render context inner builder.name) := by
  have hready : Made.ready inner = Component.ready (.of inner) := by
    funext component
    cases component <;> rfl
  rw [build, hready]

/-! ## The kind of a tag -/

section Kind

variable {γ : Type} {page : Page (Component ν β)} {builders : Registry γ} {tag : String}

theorem classify_of_some {component : Component ν β} (h : page.component? tag = some component) :
    classify tag page builders = component.resolution := by
  rw [classify, h]
  cases component <;> rfl

theorem classify_of_none (h : page.component? tag = none) :
    classify tag page builders =
      if builders.get? tag = none then .unresolved else .builder := by
  rw [classify, h, Registry.contains]
  cases builders.get? tag <;> rfl

theorem classify_eq_subView_iff :
    classify tag page builders = .subView ↔ ∃ shown, page.component? tag = some (.view shown) := by
  cases hpage : page.component? tag with
  | some component =>
    rw [classify_of_some hpage]
    cases component <;> simp [Component.resolution]
  | none =>
    rw [classify_of_none hpage]
    split <;> simp

theorem classify_eq_subBuilder_iff :
    classify tag page builders = .subBuilder ↔
      ∃ name nested, page.component? tag = some (.builder name nested) := by
  cases hpage : page.component? tag with
  | some component =>
    rw [classify_of_some hpage]
    cases component <;> simp [Component.resolution]
  | none =>
    rw [classify_of_none hpage]
    split <;> simp

theorem classify_eq_builder_iff :
    classify tag page builders = .builder ↔
      page.component? tag = none ∧ ∃ descriptor, builders.get? tag = some descriptor := by
  cases hpage : page.component? tag with
  | some component =>
    rw [classify_of_some hpage]
    cases component <;> simp [Component.resolution]
  | none =>
    rw [classify_of_none hpage]
    cases builders.get? tag <;> simp

theorem classify_eq_unresolved_iff :
    classify tag page builders = .unresolved ↔
      page.component? tag = none ∧ builders.get? tag = none := by
  cases hpage : page.component? tag with
  | some component =>
    rw [classify_of_some hpage]
    cases component <;> simp [Component.resolution]
  | none =>
    rw [classify_of_none hpage]
    cases builders.get? tag <;> simp

/-- A component that is put on a page is found under its own tag only, whatever the site has. -/
theorem classify_register (page : Page (Component ν β)) (builders : Registry γ) (tag other : String)
    (component : Component ν β) :
    classify tag (page.register other component) builders =
      if tag = other then component.resolution else classify tag page builders := by
  have hfound := Page.component?_register page other tag component
  by_cases h : tag = other
  · rw [if_pos h] at hfound ⊢
    exact classify_of_some hfound
  · rw [if_neg h] at hfound ⊢
    rw [classify, classify, hfound]

/-- A builder that is put into the site is found under its own tag only, where the page has nothing
under that tag. -/
theorem classify_registered (page : Page (Component ν β)) (tag : String) {other : String}
    {descriptor : Descriptor γ} {next : Registry γ}
    (h : builders.register other descriptor = .ok next) :
    classify tag page next =
      if tag = other ∧ page.component? tag = none then .builder
      else classify tag page builders := by
  have hother : other ≠ "" := by
    rintro rfl
    cases h
  obtain ⟨after, hafter, -, hentries, -⟩ := Registry.register_eq_ok hother descriptor
  obtain rfl := Except.ok.inj (hafter.symm.trans h)
  have hget : after.get? tag = if tag = other then some descriptor else builders.get? tag := by
    rw [← Registry.get?_setEntry, Registry.get?, hentries]
    rfl
  cases hpage : page.component? tag with
  | some component => rw [classify_of_some hpage, classify_of_some hpage, if_neg (by simp)]
  | none =>
    rw [classify_of_none hpage, classify_of_none hpage, hget]
    by_cases htag : tag = other
    · simp [htag]
    · simp [htag]

end Kind

/-! ## Answers -/

/-- The rendering with one more nested build counted. -/
def Rendering.counting (start : Rendering) (source : BuildSource) : Rendering :=
  { start with measurements := .nestedBuild source :: start.measurements }

/-- **Answering by a builder of the site**: one builder is constructed from its descriptor for the
request alone and is built, or the descriptor has no constructor for that. -/
inductive Render.BuildsAnew (context : Context) (inner : Inner) (descriptor : Descriptor Builder)
    (start : Rendering) : Except Failure Unit × Rendering → Prop
  | built {builder : Builder} {builders : Registry Builder}
    (hconstruct : start.shared.builders.construct descriptor
      { request := context.request, pathData := {}, model := none, routeId := 0 } =
        (.ok builder, builders)) :
    BuildsAnew context inner descriptor start
      ((noteCreated builder >>= fun builder => inner.builder builder 0)
        { start with shared := { start.shared with builders := builders } })
  | refused (hconstruct : start.shared.builders.construct descriptor
      { request := context.request, pathData := {}, model := none, routeId := 0 } =
        (.error (.missingConstructor descriptor.typeName .context), start.shared.builders)) :
    BuildsAnew context inner descriptor start
      (.error (.error (.configuration (.missingConstructor descriptor.typeName .context))), start)

/-- A descriptor refuses only what it has no constructor for. -/
theorem Registry.construct_refusal {α : Type} {registry : Registry α} {descriptor : Descriptor α}
    {args : ConstructorArgs} {error : ConfigurationError}
    (h : (registry.construct descriptor args).1 = .error error) :
    error = .missingConstructor descriptor.typeName args.signature := by
  unfold construct at h
  dsimp only at h
  split at h
  · cases h
  · split at h
    · exact (Except.error.inj h).symm
    · cases h

theorem Render.constructFrom_buildsAnew (context : Context) (inner : Inner)
    (descriptor : Descriptor Builder) (start : Rendering) :
    BuildsAnew context inner descriptor start
      ((constructFrom descriptor { request := context.request } >>= fun builder =>
        inner.builder builder 0) start) := by
  rw [bind_apply, constructFrom, constructBy]
  cases hconstruct : start.shared.builders.construct descriptor { request := context.request } with
  | mk outcome builders =>
    have houtcome := congrArg Prod.fst hconstruct
    cases outcome with
    | ok builder =>
      have hbuilt : BuildsAnew context inner descriptor start _ := .built hconstruct
      rw [bind_apply] at hbuilt
      exact hbuilt
    | error e =>
      obtain rfl := Registry.construct_refusal houtcome
      obtain rfl : builders = start.shared.builders :=
        (congrArg Prod.snd hconstruct).symm.trans (Registry.construct_error houtcome)
      exact .refused hconstruct

/-- Where every build is too deep, the answer is not that of a page whose things panic, nor of one
where nothing is to be done. -/
theorem Render.BuildsAnew.outcome_ne {context : Context} {inner : Inner}
    {descriptor : Descriptor Builder} {start : Rendering} {answer : Except Failure Unit × Rendering}
    (h : BuildsAnew context inner descriptor start answer)
    (hinner : ∀ builder, inner.builder builder 0 = throw .tooDeep) :
    answer.1 ≠ .error .panic ∧ answer.1 ≠ .ok () := by
  cases h with
  | @built builder builders hconstruct =>
    let made : Rendering := { start with shared := { start.shared with builders := builders } }
    have hnoted : noteCreated builder made = (.ok builder, (noteCreated builder made).2) :=
      Prod.ext (noteCreated_result builder made) rfl
    rw [bind_apply, hnoted]
    dsimp only
    rw [hinner]
    exact ⟨nofun, nofun⟩
  | refused hconstruct => simp

namespace Page

variable (context : Context) {page : Page (Component ν β)} {tag : String} (seen : List String)

theorem answerBy_view {shown : ν} (h : page.component? tag = some (.view shown))
    (meaning : Meaning ν β) : page.answerBy context tag seen meaning = meaning.view shown := by
  rw [answerBy, answerTag, component?_map, h]
  rfl

theorem answerBy_builder {name : String} {nested : β}
    (h : page.component? tag = some (.builder name nested)) (meaning : Meaning ν β)
    (start : Rendering) :
    page.answerBy context tag seen meaning start =
      meaning.build nested (seen.count tag) (start.counting .page) := by
  rw [answerBy, answerTag, component?_map, h]
  rfl

theorem answerBy_registered {descriptor : Descriptor Builder} {start : Rendering}
    (h : page.component? tag = none) (hget : start.shared.builders.get? tag = some descriptor)
    (meaning : Meaning ν β) :
    page.answerBy context tag seen meaning start =
      (Render.constructFrom descriptor { request := context.request } >>= fun builder =>
        meaning.inner.builder builder 0) (start.counting .registry) := by
  rw [answerBy, answerTag, component?_map, h]
  simp only [Option.map_none]
  rw [Render.bind_apply, show (get : Render Rendering) start = (.ok start, start) from rfl]
  dsimp only
  rw [hget]
  rfl

theorem answerBy_absent {start : Rendering} (h : page.component? tag = none)
    (hget : start.shared.builders.get? tag = none) (meaning : Meaning ν β) :
    page.answerBy context tag seen meaning start = (.ok (), start) := by
  rw [answerBy, answerTag, component?_map, h]
  simp only [Option.map_none]
  rw [Render.bind_apply, show (get : Render Rendering) start = (.ok start, start) from rfl]
  dsimp only
  rw [hget]
  rfl

end Page

/-- Things of which each shows that it was used, by how it fails. -/
def Meaning.failing : Meaning ν β where
  view := fun _ => throw .panic
  build := fun _ _ => throw .panic
  inner := { view := fun _ => throw .tooDeep, builder := fun _ _ => throw .tooDeep }

theorem Page.answerBy_failing (context : Context) {page : Page (Component ν β)} {tag : String}
    (seen : List String) {component : Component ν β} (h : page.component? tag = some component)
    (start : Rendering) :
    (page.answerBy context tag seen .failing start).1 = .error .panic := by
  cases component with
  | view shown =>
    rw [answerBy_view context seen h]
    rfl
  | builder name nested =>
    rw [answerBy_builder context seen h]
    rfl

/-- The site's builder of a tag answers it, whatever the things on the page do: the page has nothing
there. -/
theorem Page.classify_eq_builder_iff_answer (context : Context) (page : Page (Component ν β))
    (builders : Registry Builder) (tag : String) (seen : List String) :
    classify tag page builders = .builder ↔
      ∃ descriptor, builders.get? tag = some descriptor ∧
        ∀ meaning start, start.shared.builders = builders →
          Render.BuildsAnew context meaning.inner descriptor (start.counting .registry)
            (page.answerBy context tag seen meaning start) := by
  rw [classify_eq_builder_iff]
  constructor
  · rintro ⟨hpage, descriptor, hget⟩
    refine ⟨descriptor, hget, fun meaning start hstart => ?_⟩
    rw [answerBy_registered context seen hpage (hstart ▸ hget)]
    exact Render.constructFrom_buildsAnew context meaning.inner descriptor _
  · rintro ⟨descriptor, hget, hanswer⟩
    refine ⟨?_, descriptor, hget⟩
    by_contra hpage
    obtain ⟨component, hcomponent⟩ := Option.ne_none_iff_exists'.mp hpage
    let start : Rendering := { shared := { builders := builders } }
    have hne := (hanswer .failing start rfl).outcome_ne fun _ => rfl
    exact hne.1 (answerBy_failing context seen hcomponent start)

/-- Nothing is done for a tag, whatever the things on the page do: nothing is found under it. -/
theorem Page.classify_eq_unresolved_iff_answer (context : Context) (page : Page (Component ν β))
    (builders : Registry Builder) (tag : String) (seen : List String) :
    classify tag page builders = .unresolved ↔
      ∀ meaning start, start.shared.builders = builders →
        page.answerBy context tag seen meaning start = (.ok (), start) := by
  rw [classify_eq_unresolved_iff]
  constructor
  · rintro ⟨hpage, hget⟩ meaning start hstart
    exact answerBy_absent context seen hpage (hstart ▸ hget) meaning
  · intro hanswer
    let start : Rendering := { shared := { builders := builders } }
    have hok : (page.answerBy context tag seen .failing start).1 = .ok () :=
      congrArg Prod.fst (hanswer .failing start rfl)
    cases hpage : page.component? tag with
    | some component =>
      rw [answerBy_failing context seen hpage] at hok
      cases hok
    | none =>
      refine ⟨rfl, ?_⟩
      cases hget : builders.get? tag with
      | none => rfl
      | some descriptor =>
        have hkind := classify_eq_builder_iff.mpr ⟨hpage, descriptor, hget⟩
        obtain ⟨_, -, hbuilds⟩ :=
          (classify_eq_builder_iff_answer context page builders tag seen).mp hkind
        exact absurd hok ((hbuilds .failing start rfl).outcome_ne fun _ => rfl).2

/-- **Each kind of tags is answered in its own way**, whatever the things on the page do and
whatever is written to. A tag is of the kind

* of views exactly if a view is registered under it on the page, whose rendering is the answer;
* of the page's builders exactly if a builder is registered under it on the page, and the answer is
  to count a nested build and to build this builder, once more than the tag was met before;
* of the site's builders exactly if one is registered under it with the site, and the answer is to
  count a nested build and to construct and build a new one;
* of no meaning exactly if the answer changes nothing.

A registration on the page decides about its own tag whatever the site has; one with the site
decides about its own tag if the page has nothing there. The pages of builders are such pages. -/
theorem Page.classify_iff_answer (context : Context) (page : Page (Component ν β))
    (builders : Registry Builder) (tag : String) (seen : List String) :
    (classify tag page builders = .subView ↔
      ∃ shown, page.component? tag = some (.view shown) ∧
        ∀ meaning, page.answerBy context tag seen meaning = meaning.view shown) ∧
    (classify tag page builders = .subBuilder ↔
      ∃ name nested, page.component? tag = some (.builder name nested) ∧
        ∀ meaning start, page.answerBy context tag seen meaning start =
          meaning.build nested (seen.count tag) (start.counting .page)) ∧
    (classify tag page builders = .builder ↔
      ∃ descriptor, builders.get? tag = some descriptor ∧
        ∀ meaning start, start.shared.builders = builders →
          Render.BuildsAnew context meaning.inner descriptor (start.counting .registry)
            (page.answerBy context tag seen meaning start)) ∧
    (classify tag page builders = .unresolved ↔
      ∀ meaning start, start.shared.builders = builders →
        page.answerBy context tag seen meaning start = (.ok (), start)) ∧
    (∀ other component, classify tag (page.register other component) builders =
      if tag = other then component.resolution else classify tag page builders) ∧
    (∀ other descriptor next, builders.register other descriptor = .ok next →
      classify tag page next =
        if tag = other ∧ page.component? tag = none then .builder
        else classify tag page builders) ∧
    ∀ (builder : Builder) inner cycle, builder.build context inner cycle = (do
      let page ← builder.page context inner cycle
      (page.map (Component.ready (.of inner))).render context inner builder.name) := by
  refine ⟨?_, ?_, classify_eq_builder_iff_answer context page builders tag seen,
    classify_eq_unresolved_iff_answer context page builders tag seen,
    classify_register page builders tag, fun other descriptor next => classify_registered page tag,
    fun builder inner => builder.build_eq context inner⟩
  · rw [classify_eq_subView_iff]
    refine exists_congr fun shown => (and_iff_left_of_imp fun hpage meaning => ?_).symm
    exact answerBy_view context seen hpage meaning
  · rw [classify_eq_subBuilder_iff]
    refine exists₂_congr fun name nested =>
      (and_iff_left_of_imp fun hpage meaning start => ?_).symm
    exact answerBy_builder context seen hpage meaning start

end Folio
