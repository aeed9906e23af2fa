import Folio.Proofs.Render.Keeping
import Folio.Proofs.Route.Confinement
import Folio.Proofs.Site.Answering

/-!
# Requests do not influence one another

Whatever a site was asked before, and wherever that ended, a request is answered as if it were the
first.

* `SiteDeclaration.Numbered`: the descriptors of a site have numbers of their own, as all have that
  are made by calls (`SiteDeclaration.numbered_of_made`).
* `SiteDeclaration.assemble_ok`: what a site is assembled to.
* `Site.Over.handle`, `Site.Over.outcome?`: a request from two states that may outlive requests.
* `Visit`, `Site.after`: what outlives a history of requests, each to some depth.
* **`Site.answer_after`**: a request is answered alike after every history.
-/

namespace Folio

/-! ## Descriptors -/

theorem Numbered.subset {α : Type} {next : Nat} {made descriptors : List (Descriptor α)}
    (h : Numbered next made) (hsub : descriptors ⊆ made) : Numbered next descriptors :=
  ⟨fun descriptor hmem => h.below descriptor (hsub hmem),
    fun descriptor hmem other hother => h.alike descriptor (hsub hmem) other (hsub hother)⟩

/-- Descriptors that were made by calls have numbers of their own. -/
theorem Session.exists_numbered {α : Type} (kind : String) (next : Nat) (calls : List (Call α))
    {descriptors : List (Descriptor α)}
    (h : descriptors ⊆ (Session.after .registry
      { store := { kind := kind }, next := next } calls).made) :
    ∃ next, Numbered next descriptors :=
  ⟨_, ((Tracks.start kind next).after calls).numbered.subset h⟩

namespace SiteDeclaration

/-- The descriptors of the views of a site. -/
def viewDescriptors (declaration : SiteDeclaration) : List (Descriptor View) :=
  declaration.views.map Prod.snd

/-- The descriptors of the builders of a site. -/
def builderDescriptors (declaration : SiteDeclaration) : List (Descriptor Builder) :=
  declaration.builders.map BuilderDeclaration.descriptor ++ declaration.notFound.toList

/-- **The descriptors of a site have numbers of their own**: two that have one number have the same
constructors. -/
structure Numbered (declaration : SiteDeclaration) : Prop where
  views : ∃ next, Folio.Numbered next declaration.viewDescriptors
  builders : ∃ next, Folio.Numbered next declaration.builderDescriptors

/-- The descriptors of a site that are made by calls have numbers of their own. -/
theorem numbered_of_made {declaration : SiteDeclaration} (views : List (Call View))
    (builders : List (Call Builder))
    (hviews : declaration.viewDescriptors ⊆
      (Session.after .registry { store := { kind := "view" } } views).made)
    (hbuilders : declaration.builderDescriptors ⊆
      (Session.after .registry { store := { kind := "builder" } } builders).made) :
    declaration.Numbered :=
  ⟨Session.exists_numbered "view" 1 views hviews,
    Session.exists_numbered "builder" 1 builders hbuilders⟩

/-! ## Assembled sites -/

/-- **What a site is assembled to.** -/
theorem assemble_ok {declaration : SiteDeclaration} {site : Site} {fresh : Shared}
    (h : declaration.assemble = .ok (site, fresh)) :
    ∃ table, RouteTable.build declaration.routed declaration.pathOptions = .ok table ∧
      Registry.registerAll { kind := "view" } declaration.views = .ok fresh.views ∧
      Registry.registerAll { kind := "builder" } declaration.named = .ok fresh.builders ∧
      fresh.located = [] ∧
      site = { settings := declaration.settings, templates := declaration.templates,
               routes := declaration.notFound.elim table fun descriptor =>
                 table.fallingBackTo descriptor.typeName descriptor } := by
  unfold assemble at h
  cases hviews : Registry.registerAll { kind := "view" } declaration.views with
  | error e => rw [hviews] at h; cases h
  | ok views =>
    cases hbuilders : Registry.registerAll { kind := "builder" } declaration.named with
    | error e => rw [hviews, hbuilders] at h; cases h
    | ok builders =>
      cases htable : RouteTable.build declaration.routed declaration.pathOptions with
      | error e => rw [hviews, hbuilders, htable] at h; cases h
      | ok table =>
        rw [hviews, hbuilders, htable] at h
        cases h
        exact ⟨table, rfl, rfl, rfl, rfl, rfl⟩

/-- A builder that a path leads to was declared. -/
theorem handler_mem {declaration : SiteDeclaration} {site : Site} {fresh : Shared}
    (h : declaration.assemble = .ok (site, fresh)) {path : String}
    {found : Destination (Descriptor Builder)} (hfound : site.routes.resolve path = some found) :
    found.handler ∈ declaration.builderDescriptors := by
  obtain ⟨table, htable, -, -, -, rfl⟩ := assemble_ok h
  obtain ⟨-, hholds⟩ := RouteTable.build_ok htable
  have hroutes : (declaration.notFound.elim table fun descriptor =>
      table.fallingBackTo descriptor.typeName descriptor).routes = table.routes := by
    cases declaration.notFound <;> rfl
  unfold RouteTable.resolve at hfound
  split at hfound
  · next first hfirst =>
    obtain rfl := Option.some.inj hfound
    obtain ⟨relative, -, hfirst⟩ := Option.bind_eq_some_iff.mp hfirst
    obtain ⟨route, hroute, -, data, rfl⟩ := RouteTable.firstMatch?_eq_some hfirst
    rw [hroutes, hholds.mem_routes_iff] at hroute
    obtain ⟨entry, hentry, hroute⟩ := hroute
    obtain ⟨expression, -, rfl⟩ := Option.map_eq_some_iff.mp hroute
    obtain ⟨definition, hdefinition, hbuilder⟩ :=
      List.mem_map.mp (RouteTable.mem_expanded_iff.mp hentry).1
    refine List.mem_append_left _ (List.mem_map.mpr ⟨definition, hdefinition, ?_⟩)
    rw [RouteTable.destination, ← hbuilder]
  · obtain ⟨entry, hentry, rfl⟩ := Option.map_eq_some_iff.mp hfound
    refine List.mem_append_right _ ?_
    cases hnotFound : declaration.notFound with
    | none =>
      rw [hnotFound, Option.elim_none, hholds.fallback] at hentry
      cases hentry
    | some descriptor =>
      rw [hnotFound] at hentry
      cases hentry
      exact List.mem_singleton_self _

end SiteDeclaration

theorem Registry.Coherent.registerAll {α : Type} {made : List (Descriptor α)}
    {registry after : Registry α} {entries : List (String × Descriptor α)}
    (h : registry.Coherent made) (hmade : ∀ entry ∈ entries, entry.2 ∈ made)
    (hall : registry.registerAll entries = .ok after) : after.Coherent made := by
  induction entries generalizing registry with
  | nil => exact Except.ok.inj hall ▸ h
  | cons entry entries ih =>
    obtain ⟨identifier, descriptor⟩ := entry
    unfold Registry.registerAll at hall
    by_cases hidentifier : identifier = ""
    · rw [register, if_pos hidentifier] at hall
      cases hall
    · obtain ⟨next, hnext, -, hentries, hkept⟩ := registry.register_eq_ok hidentifier descriptor
      rw [hnext] at hall
      exact ih (h.registered (hmade _ List.mem_cons_self) hentries hkept)
        (fun entry hentry => hmade entry (List.mem_cons_of_mem _ hentry)) hall

/-- What no request to a site changes. -/
def SiteDeclaration.ground (declaration : SiteDeclaration) (h : declaration.Numbered)
    (fresh : Shared) : Ground where
  shared := fresh
  templates := declaration.templates
  searchRoot := declaration.settings.templates.searchRoot
  views := declaration.viewDescriptors
  builders := declaration.builderDescriptors
  numberedViews := h.views
  numberedBuilders := h.builders

/-- A site that was not asked anything keeps nothing. -/
theorem SiteDeclaration.keeps_fresh {declaration : SiteDeclaration}
    (hnumbered : declaration.Numbered) {site : Site} {fresh : Shared}
    (h : declaration.assemble = .ok (site, fresh)) :
    (declaration.ground hnumbered fresh).Keeps fresh := by
  obtain ⟨table, -, hviews, hbuilders, hlocated, -⟩ := assemble_ok h
  refine ⟨⟨rfl, rfl, ?_⟩, ⟨rfl, rfl, ?_⟩, ?_⟩
  · exact Registry.Coherent.registerAll ⟨List.forall_mem_nil _, List.forall_mem_nil _⟩
      (fun entry hentry => List.mem_map_of_mem hentry) hviews
  · refine Registry.Coherent.registerAll ⟨List.forall_mem_nil _, List.forall_mem_nil _⟩
      (fun entry hentry => List.mem_append_left _ ?_) hbuilders
    obtain ⟨definition, hdefinition, hentry⟩ := List.mem_filterMap.mp hentry
    obtain ⟨identifier, -, rfl⟩ := Option.map_eq_some_iff.mp hentry
    exact List.mem_map_of_mem hdefinition
  · rw [hlocated]
    unfold TemplateStore.Recalls
    split
    · trivial
    · intro name path hpath
      cases hpath

/-! ## Requests -/

namespace Site

variable {site : Site} {ground : Ground}

/-- A site over a ground: it renders with its templates, and constructs the builders that were
made. -/
structure Over (site : Site) (ground : Ground) : Prop where
  under : ∀ request, ground.Under (site.context request)
  handler : ∀ {path found}, site.routes.resolve path = some found →
    found.handler ∈ ground.builders

/-- **A request is handled alike** from two states that may outlive requests, however deep it may
nest, and leaves two of them. -/
theorem Over.handle (h : site.Over ground) (depth : Nat) (request : Request) :
    Render.Alike ground _ (site.handle depth request) (site.handle depth request) := by
  have hcongruence := Render.Alike.congruence (h.under request)
  cases hfound : site.routes.resolve request.path with
  | none =>
    simp only [Site.handle, hfound]
    exact hcongruence.bind (hcongruence.measure _) fun _ => hcongruence.pure none
  | some found =>
    have hbuild (args : ConstructorArgs) (dispatch : Dispatch) := hcongruence.bind
      (.constructFrom (h.handler hfound) args) fun builder =>
        hcongruence.bind (hcongruence.builder (hcongruence.level depth) builder 0) fun _ =>
          hcongruence.pure dispatch
    simp only [Site.handle, hfound]
    refine hcongruence.bind ?_ fun dispatch => hcongruence.pure (some dispatch)
    unfold serve
    dsimp only
    split
    · exact hcongruence.bind (hcongruence.measure _) fun _ => hbuild _ _
    · exact hbuild _ _

/-- **A request has the same outcome** from two states that may outlive requests. -/
theorem Over.outcome? (h : site.Over ground) (depth : Nat) (request : Request) (sink : Sink)
    {shared other : Shared} (hshared : ground.Keeps shared) (hother : ground.Keeps other) :
    ((site.handle depth request).outcome? sink shared).map Prod.fst =
      ((site.handle depth request).outcome? sink other).map Prod.fst := by
  obtain ⟨haccords, -⟩ := h.handle depth request { shared := shared, sink := sink }
    { shared := other, sink := sink } hshared hother rfl
  obtain ⟨notes, hnotes, hnotes'⟩ := haccords.journal
  obtain ⟨more, hmore, hmore'⟩ := haccords.measurements
  rw [Render.outcome?_eq, Render.outcome?_eq, haccords.result, haccords.sink, hnotes, hnotes',
    hmore, hmore', Option.map_map, Option.map_map]
  rfl

/-- A request of a history, with the sink of its page, and how deep its components may nest. -/
structure Visit where
  request : Request
  sink : Sink := {}
  depth : Nat

/-- What outlives a visit, wherever it ends. -/
def left (site : Site) (shared : Shared) (visit : Visit) : Shared :=
  (site.handle visit.depth visit.request { shared := shared, sink := visit.sink }).2.shared

/-- **What outlives a history of requests.** -/
def after (site : Site) (shared : Shared) (history : List Visit) : Shared :=
  history.foldl site.left shared

theorem Over.after (h : site.Over ground) {shared : Shared} (hshared : ground.Keeps shared)
    (history : List Visit) : ground.Keeps (site.after shared history) := by
  induction history generalizing shared with
  | nil => exact hshared
  | cons visit history ih =>
    exact ih (h.handle visit.depth visit.request _ _ hshared hshared rfl).2.1

/-- An assembled site over its ground. -/
theorem over_of_ok {declaration : SiteDeclaration} (hnumbered : declaration.Numbered)
    {fresh : Shared} (h : declaration.assemble = .ok (site, fresh)) :
    site.Over (declaration.ground hnumbered fresh) := by
  refine ⟨fun request => ?_, declaration.handler_mem h⟩
  obtain ⟨table, -, -, -, -, rfl⟩ := SiteDeclaration.assemble_ok h
  exact ⟨rfl, rfl⟩

/-- **Requests do not influence one another.** Whatever a site was asked before, and wherever that
ended, a request is handled as by the site that was just assembled, however deep its components may
nest: it has the same dispatch, failure or panic, writes the same, and leaves the same entries in
the journal and the same measurements, or it is cut short both times. So it also has the same
answer, if it has one at all. -/
theorem answer_after {declaration : SiteDeclaration} (hnumbered : declaration.Numbered)
    {site : Site} {fresh : Shared} (h : declaration.assemble = .ok (site, fresh))
    (history : List Visit) (request : Request) (sink : Sink) :
    let later := site.after fresh history
    (∀ depth, ((site.handle depth request).outcome? sink later).map Prod.fst =
      ((site.handle depth request).outcome? sink fresh).map Prod.fst) ∧
    (site.answer request sink later).map Prod.fst =
      (site.answer request sink fresh).map Prod.fst := by
  intro later
  have hover := over_of_ok hnumbered h
  have hfresh := declaration.keeps_fresh hnumbered h
  have houtcome (depth : Nat) :=
    hover.outcome? depth request sink (hover.after hfresh history) hfresh
  refine ⟨houtcome, Option.ext fun outcome => ?_⟩
  -- An answer is the outcome at some depth, and there the outcomes are the same.
  have hiff (shared : Shared) : (site.answer request sink shared).map Prod.fst = some outcome ↔
      ∃ depth, ((site.handle depth request).outcome? sink shared).map Prod.fst = some outcome := by
    simp only [Option.map_eq_some_iff, answer_eq_some_iff]
    exact ⟨fun ⟨answer, ⟨depth, hdepth⟩, hfst⟩ => ⟨depth, answer, hdepth, hfst⟩,
      fun ⟨depth, answer, hdepth, hfst⟩ => ⟨answer, ⟨depth, hdepth⟩, hfst⟩⟩
  rw [hiff, hiff]
  exact exists_congr fun depth => by rw [houtcome depth]

/-- A site whose first request ends in the middle of a page. -/
theorem answer_after_cut :
    let clock : Descriptor View :=
      { id := 2, typeName := "Clock", fromContext := some fun args => .content args.request.path }
    let home : Descriptor Builder :=
      { id := 2, typeName := "HomeBuilder"
        fromContext := some fun _ =>
          .plain "Home" (.text "at @clock@") [("clock", .inl (.created "clock" none))] }
    let declaration : SiteDeclaration :=
      { templates := .memory [], views := [("clock", clock)], notFound := some home }
    declaration.Numbered ∧ ∃ site fresh, declaration.assemble = .ok (site, fresh) ∧
      let cut : Sink := { capacity := some 4 }
      let later := site.after fresh [{ request := { path := "/a" }, sink := cut, depth := 3 }]
      let body (request : Request) (sink : Sink) (shared : Shared) : Option String :=
        ((site.handle 3 request).outcome? sink shared).map fun outcome => outcome.1.body
      body { path := "/a" } cut fresh = some "at " ∧ later.views.constructors.length = 1 ∧
        body { path := "/b" } {} later = some "at /b" ∧
        (site.answer { path := "/b" } {} later).map Prod.fst =
          (site.answer { path := "/b" } {} fresh).map Prod.fst := by
  intro clock home declaration
  have hnumbered : declaration.Numbered :=
    SiteDeclaration.numbered_of_made [.describe "Clock", .extend 0 .context _]
      [.describe "HomeBuilder", .extend 0 .context _]
      (List.cons_subset.mpr ⟨List.mem_cons_of_mem _ List.mem_cons_self, List.nil_subset _⟩)
      (List.cons_subset.mpr ⟨List.mem_cons_of_mem _ List.mem_cons_self, List.nil_subset _⟩)
  refine ⟨hnumbered, _, _, rfl, by decide +kernel, by decide +kernel, ?_, ?_⟩
  · decide +kernel
  · exact (answer_after hnumbered rfl _ _ _).2

end Site

end Folio
