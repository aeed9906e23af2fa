import Folio.Proofs.Render.Tallying
import Folio.Proofs.Site.Repeating

/-!
# The count of nested builds

Over any history of requests, the nested builds that a site counts are the build cycles that tags
start. A tag whose builder could not be constructed is counted although no cycle starts.

* **`Site.watchedHandle`**: serving a request, watched.
* `Site.counted`, `Site.sighted`: what is counted and what is sighted in the course of a history.
* **`Site.nested_builds_tally`**: what is counted, over a history.
* `Site.nested_builds_refused`: a site counts a build that never starts.
-/

namespace Folio

namespace Site

open Watched (Watches)

/-- Construct the builder that a path leads to and write its page, watched. The request starts the
cycle. -/
def watchedServe (site : Site) (depth : Nat) (request : Request)
    (found : Destination (Descriptor Builder)) : Watched Dispatch := do
  if found.fallback then Watched.plain (Render.measure (.routeMiss true))
  let builder ← Watched.plain (Render.constructFrom found.handler
    { request := request, pathData := found.pathData, routeId := found.routeId })
  let context := site.context request
  builder.watched context (WatchedInner.level context depth) .request 0
  return { routeId := found.routeId, builder := found.typeName, fallback := found.fallback }

/-- **Serve a request, watched.** -/
def watchedHandle (site : Site) (depth : Nat) (request : Request) : Watched (Option Dispatch) :=
  match site.routes.resolve request.path with
  | none => do
    Watched.plain (Render.measure (.routeMiss false))
    return none
  | some found => do
    return some (← site.watchedServe depth request found)

/-- What a history of requests counts, wherever they end. -/
def counted (site : Site) (shared : Shared) : List Visit → List Measurement
  | [] => []
  | visit :: history =>
    let start : Rendering := { shared := shared, sink := visit.sink }
    (site.handle visit.depth visit.request start).2.measurements.reverse ++
      site.counted (site.left shared visit) history

/-- What is sighted in the course of a history of requests. -/
def sighted (site : Site) (shared : Shared) : List Visit → List Sighting
  | [] => []
  | visit :: history =>
    let start : Rendering := { shared := shared, sink := visit.sink }
    (site.watchedHandle visit.depth visit.request start).2 ++
      site.sighted (site.left shared visit) history

theorem watchedServe_run (site : Site) (depth : Nat) (request : Request)
    (found : Destination (Descriptor Builder)) (start : Rendering) :
    ∃ taken seen, site.watchedServe depth request found start =
        (site.serve depth request found start, seen) ∧
      (site.serve depth request found start).2.measurements =
        taken ++ ((if found.fallback then [.routeMiss true] else []) ++ start.measurements) ∧
      Tallies taken seen := by
  have hlevel := WatchedInner.level_watches (site.context request) depth
  have hbuild (builder : Builder) := (Builder.watched_starts (site.context request) hlevel builder
    .request 0).uncounted nofun
  have hrest (dispatch : Dispatch) := Watches.bind (.plain (.constructBy fun builders =>
    builders.construct found.handler
      { request := request, pathData := found.pathData, routeId := found.routeId }))
    fun builder => .bind (hbuild builder) fun _ => .pure dispatch
  unfold watchedServe serve
  cases found.fallback with
  | false => exact hrest _ start
  | true =>
    obtain ⟨taken, seen, hrun, htaken, htallies⟩ :=
      hrest { routeId := found.routeId, builder := found.typeName, fallback := true }
        { start with measurements := .routeMiss true :: start.measurements }
    refine ⟨taken, seen, ?_, htaken, htallies⟩
    exact congrArg (fun run => (run.1, [] ++ run.2)) hrun

/-- What is counted before a page is built: whether no route matched. -/
def misses (site : Site) (path : String) : List Measurement :=
  match site.routes.resolve path with
  | none => [.routeMiss false]
  | some found => if found.fallback then [.routeMiss true] else []

/-- **What serving a request counts**: whether no route matched, then nested builds, which tally
with what is sighted. -/
theorem watchedHandle_run (site : Site) (depth : Nat) (request : Request) (start : Rendering) :
    ∃ taken seen, site.watchedHandle depth request start =
        (site.handle depth request start, seen) ∧
      (site.handle depth request start).2.measurements =
        taken ++ (site.misses request.path ++ start.measurements) ∧
      Tallies taken seen := by
  unfold watchedHandle handle misses
  cases site.routes.resolve request.path with
  | none => exact ⟨[], [], rfl, rfl, .nil⟩
  | some found =>
    obtain ⟨taken, seen, hrun, htaken, htallies⟩ :=
      site.watchedServe_run depth request found start
    dsimp only
    rw [Watched.bind_apply, Render.bind_apply, hrun]
    revert htaken
    rcases site.serve depth request found start with ⟨e | dispatch, last⟩
    · exact fun htaken => ⟨taken, seen, rfl, htaken, htallies⟩
    · exact fun htaken => ⟨taken, seen ++ [], rfl, htaken, htallies.andThen .nil⟩

theorem misses_nested (site : Site) (path : String) (source : BuildSource) :
    (site.misses path).count (.nestedBuild source) = 0 := by
  unfold misses
  cases site.routes.resolve path with
  | none => rfl
  | some found => cases hfallback : found.fallback <;> simp [hfallback]

/-- Apart from nested builds, a request counts whether no route matched, and nothing else. -/
theorem handle_missed (site : Site) (depth : Nat) (request : Request) (shared : Shared)
    (sink : Sink) (measurement : Measurement) (h : ∀ source, measurement ≠ .nestedBuild source) :
    let run := site.handle depth request { shared := shared, sink := sink }
    run.2.measurements.count measurement = (site.misses request.path).count measurement := by
  obtain ⟨taken, seen, -, htaken, htallies⟩ :=
    site.watchedHandle_run depth request { shared := shared, sink := sink }
  have hnone : taken.count measurement = 0 := by
    refine List.count_eq_zero.mpr fun hmem => ?_
    obtain ⟨source, hsource⟩ := htallies.nested measurement hmem
    exact h source hsource
  dsimp only
  rw [htaken, List.append_nil, List.count_append, hnone, Nat.zero_add]

/-- The nested builds that one request counts tally with what is sighted. -/
theorem handle_nested (site : Site) (depth : Nat) (request : Request) (shared : Shared)
    (sink : Sink) :
    let start : Rendering := { shared := shared, sink := sink }
    let taken := (site.handle depth request start).2.measurements
    let seen := (site.watchedHandle depth request start).2
    taken.count (.nestedBuild .page) = cyclesBy (.tag .page) seen ∧
    taken.count (.nestedBuild .registry) =
      cyclesBy (.tag .registry) seen + (refusals seen).length ∧
    ∀ descriptor ∈ refusals seen, descriptor.constructor? .context = none := by
  intro start
  obtain ⟨taken, seen, hrun, htaken, htallies⟩ := site.watchedHandle_run depth request start
  have hnested (source : BuildSource) :
      (site.handle depth request start).2.measurements.count (.nestedBuild source) =
        taken.count (.nestedBuild source) := by
    rw [htaken, List.append_nil, List.count_append, misses_nested, Nat.add_zero]
  rw [hrun]
  exact ⟨(hnested .page).trans htallies.page, (hnested .registry).trans htallies.registry,
    htallies.refused⟩

/-- **The count of nested builds over a history of requests**, wherever they end and however deep
they may nest. Watching changes nothing. The nested builds of builders registered on pages are the
cycles of such builders that tags start. Those of builders registered with the site are the cycles
of such builders that tags start, and the builders that tags are refused, none of which has a
constructor for a request alone. So nothing else is counted: no tag of a view, no tag that stands
for nothing, and no build that a request or a program starts. -/
theorem nested_builds_tally (site : Site) (shared : Shared) (history : List Visit) :
    let taken := site.counted shared history
    let seen := site.sighted shared history
    (∀ depth request start,
      (site.watchedHandle depth request start).1 = site.handle depth request start) ∧
    taken.count (.nestedBuild .page) = cyclesBy (.tag .page) seen ∧
    taken.count (.nestedBuild .registry) =
      cyclesBy (.tag .registry) seen + (refusals seen).length ∧
    ∀ descriptor ∈ refusals seen, descriptor.constructor? .context = none := by
  refine ⟨fun depth request start => ?_, ?_⟩
  · obtain ⟨taken, seen, hrun, -⟩ := site.watchedHandle_run depth request start
    rw [hrun]
  induction history generalizing shared with
  | nil => exact ⟨rfl, rfl, List.forall_mem_nil _⟩
  | cons visit history ih =>
    obtain ⟨hpage, hregistry, hrefused⟩ :=
      site.handle_nested visit.depth visit.request shared visit.sink
    obtain ⟨hpage', hregistry', hrefused'⟩ := ih (site.left shared visit)
    simp only [counted, sighted, List.count_append, List.count_reverse, cyclesBy_append,
      refusals_append, List.length_append, List.forall_mem_append]
    exact ⟨by omega, by omega, hrefused, hrefused'⟩

/-- **A build is counted that never starts**: the tag of a page stands for a builder of the site
that has no constructor. -/
theorem nested_builds_refused :
    let menu : Descriptor Builder := { id := 1, typeName := "MenuBuilder" }
    let home : Descriptor Builder :=
      { id := 2, typeName := "HomeBuilder"
        fromContext := some fun _ => .plain "Home" (.text "a@menu@b") }
    let site : Site :=
      { settings := {}, templates := .memory []
        routes := { fallback := some ("HomeBuilder", home) } }
    let shared : Shared := { builders := { kind := "builder", entries := [("menu", menu)] } }
    let history : List Visit := [{ request := { path := "/" }, depth := 2 }]
    let taken := site.counted shared history
    let seen := site.sighted shared history
    let run := site.handle 2 { path := "/" } { shared := shared }
    taken.count (.nestedBuild .registry) = 1 ∧ cyclesBy (.tag .registry) seen = 0 ∧
      (refusals seen).length = 1 ∧ run.2.sink.text = "a" ∧
      run.1 = .error (.error (.configuration (.missingConstructor "MenuBuilder" .context))) := by
  decide +kernel

end Site

end Folio
