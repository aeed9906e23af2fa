import Folio.Proofs.Render.Depth
import Folio.Proofs.Scanner.Rejection
import Folio.Proofs.Site.Assembling

/-!
# Builders within pages

A tag that stands for a builder of the site knows nothing of the page that it stands on: it writes
what the builder writes that is created and built by hand, and every occurrence creates another. A
builder that is registered on the page is one builder, built again at each occurrence.

* **`View.render_accords`**: a view does the same at every moment and depth.
* `Page.answerTag_built`: a tag of the site creates the builder and builds it.
* `answerEvents_occurrence`: one occurrence of a tag among the events of a page.
* **`SiteDeclaration.tag_builds_anew`**: what a tag of the site and a tag of the page do.
-/

namespace Folio

/-- **A view does the same at every moment and at every depth**, unless it is nested too deep. -/
theorem View.render_accords {ground : Ground} {context : Context} (hcontext : ground.Under context)
    (view : View) (depth more : Nat) {start other : Rendering} (hstart : ground.Keeps start.shared)
    (hother : ground.Keeps other.shared) (hsink : start.sink = other.sink) :
    let run := view.render context (Inner.level context depth) start
    let again := view.render context (Inner.level context more) other
    run.1 = .error .tooDeep ∨ again.1 = .error .tooDeep ∨ Accords start other run again := by
  have halike := Render.Alike.congruence hcontext
  have haccords (depth : Nat) :=
    (halike.view (halike.level depth) view start other hstart hother hsink).1
  have hwithin {depth more : Nat} (h : depth ≤ more) :=
    (Render.Within.congruence context).view (Inner.level_within context h) view
  rcases Nat.le_total depth more with hle | hle
  · rcases hwithin hle other with hdeep | hsame
    · exact .inl ((haccords depth).result.trans hdeep)
    · exact .inr (.inr (hsame ▸ haccords depth))
  · rcases hwithin hle start with hdeep | hsame
    · exact .inr (.inl ((haccords more).result.symm.trans hdeep))
    · exact .inr (.inr (hsame ▸ haccords more))

/-! ## Tags of the site -/

/-- **A tag of the site creates its builder and builds it.** -/
theorem Page.answerTag_built {page : Page Ready} {tag : String} (hpage : page.component? tag = none)
    (hnonempty : tag ≠ "") {start : Rendering} {descriptor : Descriptor Builder}
    (hget : start.shared.builders.get? tag = some descriptor) (context : Context) (inner : Inner)
    (seen : List String) :
    page.answerTag context inner tag seen start =
      (View.built tag {}).render context inner
        { start with measurements := .nestedBuild .registry :: start.measurements } := by
  let counted : Rendering :=
    { start with measurements := .nestedBuild .registry :: start.measurements }
  have hcreate : Render.constructBuilder context tag {} counted =
      Render.constructFrom descriptor { request := context.request } counted := by
    have hget' : counted.shared.builders.get? tag = some descriptor := hget
    unfold Render.constructBuilder Render.constructFrom Render.constructBy Registry.create
    simp only [if_neg hnonempty, hget']
  rw [Page.answerTag_of_absent hpage, hget, View.render_built]
  dsimp only
  rw [Render.bind_apply, show Render.measure (.nestedBuild .registry) start = (.ok (), counted)
    from rfl]
  dsimp only
  rw [Render.bind_apply, Render.bind_apply, hcreate]

/-! ## Occurrences -/

/-- **One occurrence of a tag**: all before it is answered, then the tag, which may depend on the
tags before, then all after it. -/
theorem answerEvents_occurrence {m : Type → Type} [Monad m] [LawfulMonad m]
    (write : String → m Unit) (answer : String → List String → m Unit) (before : List Event)
    (tag : String) (after : List Event) (seen : List String) :
    let onTag (tag : String) (seen : List String) : m (List String) := do
      answer tag seen
      return tag :: seen
    answerEvents write onTag (before ++ .tag tag :: after) seen =
      (do
        let _ ← answerEvents write onTag before seen
        answer tag ((tagNames before).reverse ++ seen)
        answerEvents write onTag after (tag :: ((tagNames before).reverse ++ seen))) := by
  intro onTag
  induction before generalizing seen with
  | nil =>
    rw [List.nil_append, answerEvents, answerEvents, pure_bind, bind_assoc]
    simp only [pure_bind]
    rfl
  | cons event before ih =>
    cases event with
    | literal text =>
      rw [List.cons_append, answerEvents, answerEvents, bind_assoc]
      simp only [ih]
      rfl
    | tag name =>
      have hseen : (tagNames (.tag name :: before)).reverse ++ seen =
          (tagNames before).reverse ++ name :: seen := by
        rw [show tagNames (.tag name :: before) = name :: tagNames before from rfl,
          List.reverse_cons, List.append_assoc, List.singleton_append]
      rw [List.cons_append, answerEvents, answerEvents]
      simp only [onTag, bind_assoc, pure_bind, ih, hseen]

/-! ## Tags of the site and tags of the page -/

namespace SiteDeclaration

variable {declaration : SiteDeclaration} {site : Site} {fresh : Shared}

/-- **A tag of the site knows nothing of its page.** Where a tag is not on the page and a definition
goes under it, it does what is done when its builder is created by its identifier, without path
parameters, and built by hand. So it writes the same at any other moment, on any other page or on
none, with anything before it, and at any other depth, unless that is too deep.

At each of its occurrences a builder is constructed for the request alone, and built for the first
time. Where a builder is registered on the page under a tag, it is this builder that each occurrence
builds again, once more than there were occurrences before. -/
theorem tag_builds_anew (hnumbered : declaration.Numbered)
    (h : declaration.assemble = .ok (site, fresh)) (request : Request) {tag : String}
    {definition : BuilderDeclaration}
    (hlast : IsLast (fun other => other.GoesUnder tag) declaration.builders definition) :
    let context := site.context request
    (∀ (page : Page Ready) seen (start : Rendering), page.component? tag = none →
      site.Reaches fresh start.shared →
      let counted : Rendering :=
        { start with measurements := .nestedBuild .registry :: start.measurements }
      (∀ inner, page.answerTag context inner tag seen start =
        (View.built tag {}).render context inner counted) ∧
      ∀ depth more (other : Rendering), site.Reaches fresh other.shared →
        start.sink = other.sink →
        let answer := page.answerTag context (Inner.level context depth) tag seen start
        let built := (View.built tag {}).render context (Inner.level context more) other
        answer.1 = .error .tooDeep ∨ built.1 = .error .tooDeep ∨
          Accords counted other answer built) ∧
    ∀ (registered : Page Made) depth before,
      let inner := Inner.level context (depth + 1)
      let page := registered.map (Made.ready inner)
      let onTag (tag : String) (seen : List String) : Render (List String) := do
        page.answerTag context inner tag seen
        return tag :: seen
      let answered := answerEvents Render.write onTag
      let seen := (tagNames before).reverse
      (∀ name after, answered (before ++ .tag name :: after) [] =
        (do
          let _ ← answered before []
          page.answerTag context inner name seen
          answered after (name :: seen)
          : Render (List String))) ∧
      (registered.component? tag = none → ∀ start : Rendering, site.Reaches fresh start.shared →
        page.answerTag context inner tag seen start =
          (do
            Render.measure (.nestedBuild .registry)
            let builder ← Render.constructFrom definition.descriptor { request := request }
            builder.build context (Inner.level context depth) 0
            : Render Unit) start) ∧
      ∀ name shown builder built,
        registered.component? name = some (.builder shown (builder, built)) →
          page.answerTag context inner name seen =
            (do
              Render.measure (.nestedBuild .page)
              builder.build context (Inner.level context depth)
                (built + (tagNames before).count name)
              : Render Unit) := by
  intro context
  have hnonempty : tag ≠ "" := by
    rintro rfl
    exact (assembled_of_ok h).2.builders definition hlast.mem hlast.1
  refine ⟨fun page seen start hpage hstart => ?_, fun registered depth before => ?_⟩
  · intro counted
    have hanswer (inner : Inner) : page.answerTag context inner tag seen start =
        (View.built tag {}).render context inner counted :=
      Page.answerTag_built hpage hnonempty (get?_of_reaches hnumbered h hlast hstart) context inner
        seen
    refine ⟨hanswer, fun depth more other hother hsink => ?_⟩
    have hkeeps : (declaration.ground hnumbered fresh).Keeps counted.shared :=
      keeps_of_reaches hnumbered h hstart
    dsimp only
    rw [hanswer]
    exact View.render_accords ((Site.over_of_ok hnumbered h).under request) (View.built tag {})
      depth more hkeeps (keeps_of_reaches hnumbered h hother) hsink
  · intro inner page onTag answered seen
    have hcomponent (name : String) :
        page.component? name = (registered.component? name).map (Made.ready inner) :=
      Page.component?_map (Made.ready inner) registered name
    refine ⟨fun name after => ?_, fun hnone start hstart => ?_,
      fun name shown builder built hsome => ?_⟩
    · have hsplit := answerEvents_occurrence Render.write (page.answerTag context inner) before name
        after []
      rwa [List.append_nil] at hsplit
    · have habsent : page.component? tag = none := by rw [hcomponent, hnone, Option.map_none]
      rw [Page.answerTag_of_absent habsent, get?_of_reaches hnumbered h hlast hstart]
      rfl
    · rw [Page.answerTag, hcomponent, hsome]
      simp only [Option.map_some, Made.ready, seen, List.count_reverse]
      rfl

/-- The second clock on a page that also has a heading, next to a clock that is built by hand. -/
theorem tag_builds_anew_clock :
    let clock : Descriptor Builder :=
      { id := 2, typeName := "Clock"
        fromContext := some fun args =>
          .mk "Clock" ["made"] (fun _ _ => return .null) (fun _ _ memory => return (memory, none))
            fun _ _ _ _ => Hook.assemble (.text args.request.path) [] }
    let declaration : SiteDeclaration :=
      { templates := .memory [], builders := [⟨clock, some "clock", [⟨1, "", 5⟩]⟩] }
    let page : Page Ready := Page.register {} "heading" (.view (Render.write "Time"))
    declaration.Numbered ∧ ∃ site fresh, declaration.assemble = .ok (site, fresh) ∧
      let context := site.context { path := "/now" }
      let start : Rendering := { shared := fresh, sink := { text := "Time " } }
      let counted : Rendering := { start with measurements := [.nestedBuild .registry] }
      let answer :=
        page.answerTag context (Inner.level context 2) "clock" ["heading", "clock"] start
      let built := (View.built "clock" {}).render context (Inner.level context 1) start
      Accords counted start answer built ∧ built.2.sink.text = "Time /now" := by
  intro clock declaration page
  have hnumbered : declaration.Numbered := numbered_of_made []
    [.describe "Clock", .extend 0 .context _] (List.nil_subset _)
    (List.cons_subset.mpr ⟨List.mem_of_getElem? (i := 1) rfl, List.nil_subset _⟩)
  have hdeclared : declaration.declared = declaration.written :=
    declared_eq_written (by decide +kernel) (by decide +kernel)
  obtain ⟨site, fresh, h, hfresh⟩ :=
    exists_assembled rfl rfl hdeclared (by decide +kernel) (by decide +kernel)
  have hlast : IsLast (fun other => other.GoesUnder "clock") declaration.builders
      ⟨clock, some "clock", [⟨1, "", 5⟩]⟩ :=
    ⟨.given rfl (by decide), [], [], rfl, List.forall_mem_nil _⟩
  obtain ⟨hsame, -⟩ := tag_builds_anew hnumbered h { path := "/now" } hlast
  let begun : Rendering := { shared := fresh, sink := { text := "Time " } }
  obtain ⟨-, hmoments⟩ := hsame page ["heading", "clock"] begun rfl .fresh
  have hthis := hmoments 2 1 begun .fresh rfl
  refine ⟨hnumbered, site, fresh, h, ?_⟩
  -- The outcome is computed for the site without its routes, which no tag asks for.
  let context := Site.context
    { settings := declaration.settings, templates := declaration.templates, routes := {} }
    { path := "/now" }
  let start : Rendering :=
    { shared := { builders := { kind := "builder", entries := [("clock", clock)] } }
      sink := { text := "Time " } }
  let answer := page.answerTag context (Inner.level context 2) "clock" ["heading", "clock"] start
  let built := (View.built "clock" {}).render context (Inner.level context 1) start
  have hanswer : answer.1.toOption = some () := by decide +kernel
  have hbuilt : built.1.toOption = some () := by decide +kernel
  have htext : built.2.sink.text = "Time /now" := by decide +kernel
  subst hfresh
  dsimp only at hthis ⊢
  rw [context_of_ok h { path := "/now" }] at hthis ⊢
  rcases hthis with hdeep | hdeep | haccords
  · rw [show answer.1 = .error .tooDeep from hdeep] at hanswer
    cases hanswer
  · rw [show built.1 = .error .tooDeep from hdeep] at hbuilt
    cases hbuilt
  · exact ⟨haccords, htext⟩

end SiteDeclaration

end Folio
