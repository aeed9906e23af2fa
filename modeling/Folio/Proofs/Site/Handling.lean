import Folio.Proofs.Render.Perform
import Folio.Proofs.Site.Answering

/-!
# What a request is answered with

Serving a request performs the expansion of the builder that its path leads to, if all components
pass on the errors they are told. The sink gets that expansion and nothing else; where the expansion
fails, or the sink rejects a write, all that stands before is left and nothing follows. A component
that does not pass an error on may go on after it.

* **`Site.expansion`**: what serving a request expands to; `Site.handle_performs`: serving performs
  it.
* **`Site.handle_expansion`**: what becomes of a request, whatever the sink takes.
* `Site.handle_carriesOn`: a view that disregards a rejected write, and one that panics.
-/

namespace Folio

/-- **What serving a request expands to**: a fresh instance of the builder that its path leads to,
built for the first time. -/
def Site.expansion (site : Site) (depth : Nat) (request : Request)
    (found : Destination (Descriptor Builder)) : Expansion (Option Dispatch) := do
  if found.fallback then Expansion.measure (.routeMiss true)
  let builder ← Expansion.constructFrom found.handler
    { request := request, pathData := found.pathData, routeId := found.routeId }
  let context := site.context request
  builder.expansion context (InnerExpansion.level context depth) 0
  return some { routeId := found.routeId, builder := found.typeName, fallback := found.fallback }

/-- Replacing a tag fails where its answer does. -/
theorem Page.replace_error {context : Context} {inner : InnerExpansion} {page : Page Told}
    {tag : String} {seen : List String} {shared : Shared} {error : Failure}
    (h : (page.replace context inner tag seen shared).result = .error error) :
    (page.answer context inner tag seen shared).result = .error error ∧
      (page.replace context inner tag seen shared).acts =
        (page.answer context inner tag seen shared).acts := by
  unfold replace at h ⊢
  cases hanswer : (page.answer context inner tag seen shared).result with
  | ok _ =>
    rw [Expansion.andThen_ok _ hanswer] at h
    cases h
  | error e =>
    rw [Expansion.andThen_error _ hanswer] at h ⊢
    obtain rfl : e = error := Except.error.inj h
    exact ⟨rfl, rfl⟩

/-- **Serving a request that leads somewhere performs its expansion**, if the builder passes errors
on. -/
theorem Site.handle_performs (site : Site) (depth : Nat) {request : Request}
    {found : Destination (Descriptor Builder)}
    (hfound : site.routes.resolve request.path = some found)
    (h : found.handler.Makes Builder.PassesOn) :
    (site.handle depth request).Performs (fun _ => True) (site.expansion depth request found) := by
  have hbuild {builder : Builder} (hbuilder : builder.PassesOn) :
      (builder.build (site.context request) (Inner.level (site.context request) depth) 0).Performs
        (fun _ => True)
        (builder.expansion (site.context request)
          (InnerExpansion.level (site.context request) depth) 0) :=
    hbuilder.performs (Inner.performs_level (site.context request) depth) 0
  simp only [handle, hfound, serve, expansion]
  split
  · simp only [bind_assoc, pure_bind]
    exact .bind (.measure _) fun _ _ => .bind (.constructFrom h _) fun _ hbuilder =>
      .bind (hbuild hbuilder) fun _ _ => .pure trivial
  · simp only [bind_assoc, pure_bind]
    exact .bind (.constructFrom h _) fun _ hbuilder =>
      .bind (hbuild hbuilder) fun _ _ => .pure trivial

/-- **What becomes of a request.** All that is constructed shall pass on the errors it is told. Then
each build of a builder, and with it the whole request, meets one of the fates of its expansion: all
of it is written and it ends as the expansion ends, or a write is rejected and what stands before it
is left; and all that is constructed later passes errors on. Where the component of a tag fails, the
expansion is all that precedes the tag and what the component wrote before.

Whatever components do with errors, a path that leads nowhere leaves the sink as it is, and what is
not nested too deep is the same at every greater depth. -/
theorem Site.handle_expansion (site : Site) (depth : Nat) (request : Request) :
    let context := site.context request
    let inner := InnerExpansion.level context depth
    (∀ (builder : Builder) (cycle : Nat) (start : Rendering),
      builder.PassesOn → start.shared.PassesOn →
      let build := builder.build context (Inner.level context depth) cycle start
      (builder.expansion context inner cycle start.shared).Fate start build.1 build.2) ∧
    (∀ start : Rendering,
      let run := site.handle depth request start
      match site.routes.resolve request.path with
      | none => run =
          (.ok none, { start with measurements := .routeMiss false :: start.measurements })
      | some found => found.handler.Makes Builder.PassesOn → start.shared.PassesOn →
          (site.expansion depth request found start.shared).Fate start run.1 run.2 ∧
            run.2.shared.PassesOn) ∧
    (∀ (page : Page Told) (events : List Event) (seen : List String) (shared : Shared),
      let all := answerEvents Expansion.write (page.replace context inner) events seen shared
      (∃ last, all.result = .ok last) ∨
        ∃ before tag after reached error, events = before ++ .tag tag :: after ∧
          let done := answerEvents Expansion.write (page.replace context inner) before seen shared
          let failed := page.answer context inner tag reached (sharedAfter shared done.acts)
          done.result = .ok reached ∧ failed.result = .error error ∧
            all = ⟨done.acts ++ failed.acts, .error error⟩) ∧
    ∀ start : Rendering, (site.handle depth request start).1 = .error .tooDeep ∨
      ∀ more, depth ≤ more →
        site.handle more request start = site.handle depth request start := by
  refine ⟨fun builder cycle start hbuilder hstart => ?_, fun start => ?_,
    fun page events seen shared => ?_, fun start => ?_⟩
  · obtain ⟨hsame, -⟩ :=
      hbuilder.performs (Inner.performs_level (site.context request) depth) cycle start hstart
    dsimp only
    rw [hsame]
    exact Script.perform_fate _ start
  · intro run
    cases hfound : site.routes.resolve request.path with
    | none =>
      simp only [run, handle, hfound]
      rfl
    | some found =>
      intro hhandler hstart
      obtain ⟨hsame, hnext, -⟩ := site.handle_performs depth hfound hhandler start hstart
      refine ⟨?_, hnext⟩
      dsimp only [run]
      rw [hsame]
      exact Script.perform_fate (site.expansion depth request found start.shared) start
  · cases hall : (answerEvents Expansion.write (page.replace _ _) events seen shared).result with
    | ok last => exact .inl ⟨last, hall⟩
    | error error =>
      obtain ⟨before, tag, after, reached, hevents, hdone, hfailed, hacts⟩ :=
        Expansion.answerEvents_error hall
      obtain ⟨hanswer, hsame⟩ := Page.replace_error hfailed
      refine .inr ⟨before, tag, after, reached, error, hevents, hdone, hanswer, ?_⟩
      rw [← hsame, ← hacts, ← hall]
  · by_cases hdeep : (site.handle depth request start).1 = .error .tooDeep
    · exact .inl hdeep
    · exact .inr fun more hmore => (site.handle_within request hmore).eq hdeep

/-- A view whose text does not fit into the sink, on a page between two words. -/
theorem Site.handle_expansion_full :
    let view : View := .content "long"
    let home : Descriptor Builder :=
      { id := 1, typeName := "Home"
        fromContext := some fun _ => .plain "Home" (.text "a@v@b") [("v", .inl view)] }
    let site : Site :=
      { settings := {}, templates := .memory [], routes := { fallback := some ("Home", home) } }
    let start : Rendering := { sink := { capacity := some 3 } }
    let run := site.handle 1 {} start
    ∃ found, site.routes.resolve "/" = some found ∧ found.handler.Makes Builder.PassesOn ∧
      start.shared.PassesOn ∧ (site.expansion 1 {} found start.shared).Fate start run.1 run.2 ∧
      run.2.sink.text = "a" := by
  intro view home site start run
  have hview : view.PassesOn := .mk fun _ => .write "long"
  have hmakes : home.Makes Builder.PassesOn := by
    intro signature constructor hconstructor args
    cases signature with
    | context =>
      obtain rfl := Option.some.inj hconstructor
      exact .plain "Home" (.text "a@v@b") (List.forall_mem_singleton.mpr hview)
    | contextAndModel => cases hconstructor
  have hstart : start.shared.PassesOn :=
    ⟨⟨List.forall_mem_nil _, List.forall_mem_nil _⟩, ⟨List.forall_mem_nil _, List.forall_mem_nil _⟩⟩
  have hfound : site.routes.resolve ({} : Request).path = site.routes.fallbackMatch? := by
    unfold RouteTable.resolve
    cases site.routes.appRelative? ({} : Request).path <;> rfl
  obtain ⟨-, hrun, -⟩ := site.handle_expansion 1 {}
  have hhome := hrun start
  rw [hfound] at hhome
  obtain ⟨hfate, -⟩ := hhome hmakes hstart
  exact ⟨_, hfound, hmakes, hstart, hfate, by decide +kernel⟩

/-- **A request may carry on after an error**: a view disregards that its write is rejected, so the
request does not end there. And a view that panics ends it without an error. -/
theorem Site.handle_carriesOn :
    let home (view : View) : Descriptor Builder :=
      { id := 1, typeName := "Home"
        fromContext := some fun _ => .plain "Home" (.text "a@v@b") [("v", .inl view)] }
    let site (view : View) : Site :=
      { settings := {}, templates := .memory []
        routes := { fallback := some ("Home", home view) } }
    let sink : Sink := { accepts := fun number _ _ => number ≠ 1 }
    let careless : View := .mk fun _ => .ask (.write rfl "lost") fun _ => .write "kept"
    let run := (site careless).handle 1 {} { sink := sink }
    let panicking := (site (.mk fun _ => .panics)).handle 1 {} {}
    ((sink.offer "a").2.offer "lost").1 = false ∧ run.1 = .ok (some ⟨0, "Home", true⟩) ∧
      run.2.sink.text = "akeptb" ∧ panicking.1 = .error .panic ∧ panicking.2.sink.text = "a" := by
  refine ⟨?_, ?_, ?_, ?_, ?_⟩ <;> decide +kernel

end Folio
