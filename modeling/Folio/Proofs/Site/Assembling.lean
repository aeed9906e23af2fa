import Folio.Proofs.Render.Preserving
import Folio.Proofs.Site.Repeating

/-!
# What a site is assembled to

A declaration feeds two structures that treat repetitions differently: of two definitions under one
identifier the registry keeps the last, while two routes of one pattern end the assembly. A
definition whose identifier was taken over still serves the routes that it declares.

* `BuilderDeclaration.GoesUnder`: the identifier that a definition is registered under, if any.
* `Registry.Gives`: a registry of the last things given; `Registry.gives_of_registerAll`.
* **`SiteDeclaration.Fault`**, **`SiteDeclaration.Assembled`**: why a site cannot be assembled, and
  what it is assembled to.
* `Site.Reaches`: what outlives requests at any moment; `Site.handle_reaches`: requests lead from
  one such moment to another; `SiteDeclaration.keeps_of_reaches`: nothing is kept there that shows.
* `Render.ownBuilder`: construction by a descriptor's own constructor.
* **`SiteDeclaration.assemble_spec`**: what assembling gives, and who is constructed from then on.
-/

namespace Folio

/-! ## Definitions -/

/-- **What a definition is registered under**: the identifier that is given, or the name of its type
for the empty one. -/
inductive BuilderDeclaration.GoesUnder (definition : BuilderDeclaration) : String → Prop
  | given {identifier : String} (h : definition.identifier = some identifier)
    (hnonempty : identifier ≠ "") : GoesUnder definition identifier
  | typeName (h : definition.identifier = some "") :
    GoesUnder definition definition.descriptor.typeName

theorem BuilderDeclaration.effectiveIdentifier_eq_some_iff {definition : BuilderDeclaration}
    {identifier : String} :
    definition.effectiveIdentifier = some identifier ↔ definition.GoesUnder identifier := by
  constructor
  · intro h
    obtain ⟨given, hgiven, rfl⟩ := Option.map_eq_some_iff.mp h
    split
    · next hempty => exact .typeName (hempty ▸ hgiven)
    · next hnonempty => exact .given hgiven hnonempty
  · intro h
    unfold effectiveIdentifier
    cases h with
    | given h hnonempty => rw [h, Option.map_some, if_neg hnonempty]
    | typeName h => rw [h, Option.map_some, if_pos rfl]

/-! ## Registries -/

section Registries

variable {α ι : Type} {registry after : Registry α} {entries : List (String × Descriptor α)}

namespace Registry

theorem registerAll_error {error : ConfigurationError}
    (h : registry.registerAll entries = .error error) :
    error = .emptyIdentifier registry.kind ∧ ∃ entry ∈ entries, entry.1 = "" := by
  induction entries generalizing registry with
  | nil => cases h
  | cons entry entries ih =>
    obtain ⟨identifier, descriptor⟩ := entry
    unfold registerAll at h
    by_cases hidentifier : identifier = ""
    · rw [register, if_pos hidentifier] at h
      exact ⟨(Except.error.inj h).symm, _, List.mem_cons_self, hidentifier⟩
    · obtain ⟨next, hnext, hkind, -, -⟩ := registry.register_eq_ok hidentifier descriptor
      rw [hnext] at h
      obtain ⟨herror, entry, hentry, hempty⟩ := ih h
      exact ⟨hkind ▸ herror, entry, List.mem_cons_of_mem _ hentry, hempty⟩

/-- What registrations leave: under each identifier the last of them, else what was there. -/
theorem registerAll_ok (h : registry.registerAll entries = .ok after) :
    (∀ entry ∈ entries, entry.1 ≠ "") ∧
      (∀ identifier, after.get? identifier =
        ((entries.reverse.find? fun entry => entry.1 = identifier).map Prod.snd).or
          (registry.get? identifier)) ∧
      ((registry.entries.map Prod.fst).Nodup → (after.entries.map Prod.fst).Nodup) ∧
      after.constructors ⊆ registry.constructors := by
  induction entries generalizing registry with
  | nil =>
    obtain rfl : registry = after := Except.ok.inj h
    exact ⟨List.forall_mem_nil _, fun _ => rfl, id, List.Subset.refl _⟩
  | cons entry entries ih =>
    obtain ⟨identifier, descriptor⟩ := entry
    unfold registerAll at h
    by_cases hidentifier : identifier = ""
    · rw [register, if_pos hidentifier] at h
      cases h
    · obtain ⟨next, hnext, -, hentries, hkept⟩ := registry.register_eq_ok hidentifier descriptor
      rw [hnext] at h
      obtain ⟨hnonempty, hget, hdistinct, hsub⟩ := ih h
      refine ⟨List.forall_mem_cons.mpr ⟨hidentifier, hnonempty⟩, fun other => ?_, fun hnodup => ?_,
        List.Subset.trans hsub hkept⟩
      · have hother := registry.get?_setEntry identifier other descriptor
        rw [show (registry.setEntry identifier descriptor).get? other = next.get? other by
          unfold Registry.get?; rw [hentries]] at hother
        rw [hget, hother, List.reverse_cons, List.find?_append, List.find?_singleton]
        by_cases hsame : other = identifier
        · rw [if_pos hsame, hsame]
          cases entries.reverse.find? fun entry => entry.1 = identifier <;> simp
        · rw [if_neg hsame, if_neg (by simpa using Ne.symm hsame), Option.or_none]
      · exact hdistinct (hentries ▸ nodup_setEntry hnodup identifier descriptor)

/-- **A registry of what was given**: under each identifier the last thing that was given for it,
and nothing else. Nothing was used yet. -/
structure Gives (registry : Registry α) (given : List ι) (under : ι → String → Prop)
    (descriptor : ι → Descriptor α) : Prop where
  get? : ∀ identifier found, registry.get? identifier = some found ↔
    ∃ x, IsLast (fun y => under y identifier) given x ∧ descriptor x = found
  contains : ∀ identifier, registry.contains identifier = true ↔ ∃ x ∈ given, under x identifier
  distinct : (registry.entries.map Prod.fst).Nodup
  unused : registry.constructors = []

/-- Registering things under the identifiers that they have gives a registry of them. -/
theorem gives_of_registerAll {kind : String} {given : List ι} {identifier? : ι → Option String}
    {descriptor : ι → Descriptor α}
    (h : ({ kind := kind } : Registry α).registerAll
      (given.filterMap fun x => (identifier? x).map fun identifier => (identifier, descriptor x)) =
        .ok registry) :
    registry.Gives given (fun x identifier => identifier? x = some identifier) descriptor := by
  obtain ⟨-, hget, hdistinct, hkept⟩ := registerAll_ok h
  have hlast (identifier : String) : registry.get? identifier =
      (given.reverse.find? fun x => identifier? x = some identifier).map descriptor := by
    rw [hget, ← List.filterMap_reverse, List.find?_filterMap]
    rw [show ({ kind := kind } : Registry α).get? identifier = none from rfl, Option.or_none]
    rw [show (fun x => ((identifier? x).map fun identifier => (identifier, descriptor x)).any
        fun entry => decide (entry.1 = identifier)) =
      fun x => decide (identifier? x = some identifier) from
        funext fun x => by cases identifier? x <;> simp]
    cases hfind : given.reverse.find? fun x => identifier? x = some identifier with
    | none => rfl
    | some x =>
      have hx : identifier? x = some identifier := by simpa using List.find?_some hfind
      simp [hx]
  refine ⟨fun identifier found => ?_, fun identifier => ?_, hdistinct List.nodup_nil,
    List.subset_nil.mp hkept⟩
  · rw [hlast, Option.map_eq_some_iff]
    simp only [find?_reverse_eq_some_iff, decide_eq_true_eq]
  · rw [Registry.contains, hlast, Option.isSome_map, List.find?_isSome]
    simp only [List.mem_reverse, decide_eq_true_eq]

end Registry

end Registries

/-! ## Declarations -/

namespace SiteDeclaration

variable {declaration : SiteDeclaration} {site : Site} {fresh : Shared}

/-- The expanded routes of all definitions, named or not. -/
def declared (declaration : SiteDeclaration) : List (BuilderDeclaration × RouteDeclaration) :=
  declaration.builders.flatMap fun definition =>
    (contributedRoutes definition.descriptor.typeName definition.routes).map fun decl =>
      (definition, decl)

/-- **A declaration that a site can be assembled from.** -/
structure Sound (declaration : SiteDeclaration) : Prop where
  views : ∀ view ∈ declaration.views, view.1 ≠ ""
  builders : ∀ definition ∈ declaration.builders, ¬ definition.GoesUnder ""
  routes : Declared.Sound (RouteTable.expanded declaration.routed)

/-- **Why a site cannot be assembled**: the error of the first step that fails. Views come first,
then the identifiers of builders, then routes. -/
inductive Fault (declaration : SiteDeclaration) : ConfigurationError → Prop
  | view (h : ∃ view ∈ declaration.views, view.1 = "") :
    Fault declaration (.emptyIdentifier "view")
  | identifier (hviews : ∀ view ∈ declaration.views, view.1 ≠ "")
    (h : ∃ definition ∈ declaration.builders, definition.GoesUnder "") :
    Fault declaration (.emptyIdentifier "builder")
  | route (hviews : ∀ view ∈ declaration.views, view.1 ≠ "")
    (hbuilders : ∀ definition ∈ declaration.builders, ¬ definition.GoesUnder "")
    {earlier : List (Declared (Descriptor Builder))} {entry : Declared (Descriptor Builder)}
    {later : List (Declared (Descriptor Builder))} {error : ConfigurationError}
    (hroutes : RouteTable.expanded declaration.routed = earlier ++ entry :: later)
    (hearlier : Declared.Sound earlier) (h : entry.Fault (Declared.patterns earlier) error) :
    Fault declaration error

/-- The route of a definition, with its descriptor for the handler. -/
structure RouteOf (route : Route (Descriptor Builder))
    (entry : BuilderDeclaration × RouteDeclaration) : Prop where
  id : route.id = entry.2.id
  priority : route.priority = entry.2.priority
  pattern : route.pattern = entry.2.pattern
  compiled : Pattern.compile? entry.2.pattern = some route.expression
  typeName : route.typeName = entry.1.descriptor.typeName
  handler : route.handler = entry.1.descriptor

/-- **What a site is assembled to.** -/
structure Assembled (declaration : SiteDeclaration) (site : Site) (fresh : Shared) : Prop where
  settings : site.settings = declaration.settings
  templates : site.templates = declaration.templates
  views : fresh.views.Gives declaration.views (fun view identifier => view.1 = identifier) Prod.snd
  builders : fresh.builders.Gives declaration.builders BuilderDeclaration.GoesUnder
    BuilderDeclaration.descriptor
  located : fresh.located = []
  /-- Each declared route stands in the table once, and nothing else does. -/
  routes : ∃ listed, List.Forall₂ RouteOf site.routes.routes listed ∧
    listed.Perm declaration.declared
  ordered : site.routes.routes.Pairwise Route.Precedes
  options : site.routes.options = declaration.pathOptions
  fallback : site.routes.fallback =
    declaration.notFound.map fun descriptor => (descriptor.typeName, descriptor)

theorem expanded_routed (declaration : SiteDeclaration) :
    RouteTable.expanded declaration.routed = declaration.declared.map fun entry =>
      (⟨entry.1.descriptor.typeName, entry.1.descriptor, entry.1.routes⟩, entry.2) := by
  simp only [RouteTable.expanded, routed, declared, List.flatMap_map, List.map_flatMap,
    List.map_map]
  rfl

/-- A declared route as the table has it. -/
theorem routeOf_of_route? {entry : BuilderDeclaration × RouteDeclaration}
    {route : Route (Descriptor Builder)}
    (h : Declared.route? (⟨entry.1.descriptor.typeName, entry.1.descriptor, entry.1.routes⟩,
      entry.2) = some route) : RouteOf route entry := by
  obtain ⟨expression, hexpression, rfl⟩ := Option.map_eq_some_iff.mp h
  exact ⟨rfl, rfl, rfl, hexpression, rfl, rfl⟩

theorem registerAll_views_ok {views : Registry View}
    (h : Registry.registerAll { kind := "view" } declaration.views = .ok views) :
    views.Gives declaration.views (fun view identifier => view.1 = identifier) Prod.snd := by
  have hall : declaration.views.filterMap (fun view =>
      (some view.1).map fun identifier => (identifier, view.2)) = declaration.views :=
    List.filterMap_some
  rw [← hall] at h
  have hgives := Registry.gives_of_registerAll h
  simpa only [Option.some.injEq] using hgives

theorem registerAll_builders_ok {builders : Registry Builder}
    (h : Registry.registerAll { kind := "builder" } declaration.named = .ok builders) :
    builders.Gives declaration.builders BuilderDeclaration.GoesUnder
      BuilderDeclaration.descriptor := by
  have hgives := Registry.gives_of_registerAll h
  simpa only [BuilderDeclaration.effectiveIdentifier_eq_some_iff] using hgives

/-- The identifiers of builders are not empty if none of them goes under the empty one. -/
theorem forall_named_iff (declaration : SiteDeclaration) :
    (∀ entry ∈ declaration.named, entry.1 ≠ "") ↔
      ∀ definition ∈ declaration.builders, ¬ definition.GoesUnder "" := by
  simp only [named, List.mem_filterMap, Option.map_eq_some_iff,
    BuilderDeclaration.effectiveIdentifier_eq_some_iff]
  constructor
  · exact fun h definition hmem hempty => h _ ⟨definition, hmem, _, hempty, rfl⟩ rfl
  · rintro h entry ⟨definition, hmem, identifier, hgoes, rfl⟩ rfl
    exact h definition hmem hgoes

/-- A declaration is sound by its identifiers and by the patterns of its routes. -/
theorem sound_iff (declaration : SiteDeclaration) :
    declaration.Sound ↔ (∀ view ∈ declaration.views, view.1 ≠ "") ∧
      (∀ entry ∈ declaration.named, entry.1 ≠ "") ∧
      (declaration.declared.map fun entry => entry.2.pattern).Nodup ∧
      ∀ entry ∈ declaration.declared, (Pattern.compile? entry.2.pattern).isSome := by
  have hpatterns : Declared.patterns (RouteTable.expanded declaration.routed) =
      declaration.declared.map fun entry => entry.2.pattern := by
    rw [expanded_routed, Declared.patterns, List.map_map]
    rfl
  have hcompiled : (∀ pattern ∈ Declared.patterns (RouteTable.expanded declaration.routed),
        (Pattern.compile? pattern).isSome) ↔
      ∀ entry ∈ declaration.declared, (Pattern.compile? entry.2.pattern).isSome := by
    rw [hpatterns, List.forall_mem_map]
  rw [forall_named_iff, ← hpatterns, ← hcompiled]
  constructor
  · intro h
    exact ⟨h.views, h.builders, h.routes.distinct, h.routes.compiled⟩
  · rintro ⟨hviews, hbuilders, hdistinct, hall⟩
    exact ⟨hviews, hbuilders, hdistinct, hall⟩

/-- What is taken for all other paths. -/
theorem elim_fallingBackTo {table : RouteTable (Descriptor Builder)} (h : table.fallback = none)
    (notFound : Option (Descriptor Builder)) :
    (notFound.elim table fun descriptor => table.fallingBackTo descriptor.typeName descriptor) =
      { table with fallback :=
          notFound.map fun descriptor => (descriptor.typeName, descriptor) } := by
  cases notFound with
  | none => exact congrArg (RouteTable.mk _ · _) h
  | some descriptor => rfl

theorem assembled_of_ok (h : declaration.assemble = .ok (site, fresh)) :
    declaration.Assembled site fresh ∧ declaration.Sound := by
  obtain ⟨table, htable, hviews, hbuilders, hlocated, rfl⟩ := assemble_ok h
  obtain ⟨hsound, hholds⟩ := RouteTable.build_ok htable
  have hnamed := (Registry.registerAll_ok hbuilders).1
  refine ⟨?_, (Registry.registerAll_ok hviews).1, declaration.forall_named_iff.mp hnamed, hsound⟩
  rw [elim_fallingBackTo hholds.fallback]
  refine ⟨rfl, rfl, registerAll_views_ok hviews, registerAll_builders_ok hbuilders, hlocated, ?_,
    hholds.ordered, hholds.options, rfl⟩
  -- The routes are those of the declarations in another order.
  have hroutes := hholds.routes
  rw [expanded_routed, List.map_map] at hroutes
  have hall : List.Forall₂ (fun route? entry => ∀ route, route? = some route → RouteOf route entry)
      (declaration.declared.map _) declaration.declared :=
    List.forall₂_map_left_iff.mpr
      (List.forall₂_same.mpr fun entry _ route hroute => routeOf_of_route? hroute)
  obtain ⟨listed, hlisted, hperm⟩ := List.perm_comp_forall₂ hroutes hall
  exact ⟨listed, (List.forall₂_map_left_iff.mp hlisted).imp fun _ _ h => h _ rfl, hperm⟩

/-- Pages do not see the routes of the site that they are on. -/
theorem context_of_ok (h : declaration.assemble = .ok (site, fresh)) (request : Request) :
    site.context request =
      ({ settings := declaration.settings, templates := declaration.templates, routes := {} }
        : Site).context request := by
  obtain ⟨table, -, -, -, -, rfl⟩ := assemble_ok h
  rfl

theorem fresh_of_ok (h : declaration.assemble = .ok (site, fresh)) {views : Registry View}
    {builders : Registry Builder}
    (hviews : Registry.registerAll { kind := "view" } declaration.views = .ok views)
    (hbuilders : Registry.registerAll { kind := "builder" } declaration.named = .ok builders) :
    fresh = { views := views, builders := builders } := by
  obtain ⟨table, -, hviews', hbuilders', hlocated, -⟩ := assemble_ok h
  cases fresh
  dsimp only at hviews' hbuilders' hlocated
  rw [Except.ok.inj (hviews.symm.trans hviews'), Except.ok.inj (hbuilders.symm.trans hbuilders'),
    hlocated]

/-- What is declared stands in the table. -/
theorem Assembled.exists_route (h : declaration.Assembled site fresh)
    {entry : BuilderDeclaration × RouteDeclaration} (hentry : entry ∈ declaration.declared) :
    ∃ route ∈ site.routes.routes, RouteOf route entry := by
  obtain ⟨listed, hlisted, hperm⟩ := h.routes
  obtain ⟨place, hplace, rfl⟩ := List.mem_iff_getElem.mp (hperm.mem_iff.mpr hentry)
  have hplace' : place < site.routes.routes.length := hlisted.length_eq ▸ hplace
  exact ⟨_, List.getElem_mem hplace', hlisted.get hplace' hplace⟩

/-- What stands in the table is declared. -/
theorem Assembled.exists_declared (h : declaration.Assembled site fresh)
    {route : Route (Descriptor Builder)} (hroute : route ∈ site.routes.routes) :
    ∃ entry ∈ declaration.declared, RouteOf route entry := by
  obtain ⟨listed, hlisted, hperm⟩ := h.routes
  obtain ⟨place, hplace, rfl⟩ := List.mem_iff_getElem.mp hroute
  have hplace' : place < listed.length := hlisted.length_eq ▸ hplace
  exact ⟨_, hperm.mem_iff.mp (List.getElem_mem hplace'), hlisted.get hplace hplace'⟩

/-- The route of a definition matches what the declared pattern does. -/
theorem RouteOf.matches_iff {route : Route (Descriptor Builder)}
    {entry : BuilderDeclaration × RouteDeclaration} (h : RouteOf route entry)
    {expression : Pattern.Expression}
    (hcompiled : Pattern.compile? entry.2.pattern = some expression) (relative : String) :
    route.Matches relative ↔ (expression.program.search relative).isSome := by
  rw [Route.Matches, Option.some.inj (h.compiled.symm.trans hcompiled)]

/-- A path that is not left to the fallback leads to a declared route that matches it. -/
theorem Assembled.exists_resolved (h : declaration.Assembled site fresh) {path : String}
    {found : Destination (Descriptor Builder)} (hfound : site.routes.resolve path = some found)
    (hroute : found.fallback = false) :
    ∃ relative, site.routes.appRelative? path = some relative ∧
      ∃ entry ∈ declaration.declared, ∃ route data, RouteOf route entry ∧
        route.Matches relative ∧ found = RouteTable.destination route data := by
  have hsame : { site.routes with fallback := site.routes.fallback } = site.routes := rfl
  obtain ⟨relative, hrelative, route, hmem, hmatches, data, hdestination⟩ :=
    RouteTable.resolve_route (hsame ▸ hfound) hroute
  obtain ⟨entry, hentry, hof⟩ := h.exists_declared hmem
  exact ⟨relative, hrelative, entry, hentry, route, data, hof, hmatches, hdestination⟩

/-- A path that the routes of only one definition match is handled by this definition. -/
theorem Assembled.exists_handled (h : declaration.Assembled site fresh) {path relative : String}
    (hpath : site.routes.appRelative? path = some relative)
    {entry : BuilderDeclaration × RouteDeclaration} (hentry : entry ∈ declaration.declared)
    (hmatches : ∀ route, RouteOf route entry → route.Matches relative)
    (honly : ∀ other ∈ declaration.declared, ∀ route, RouteOf route other →
      route.Matches relative → other.1.descriptor = entry.1.descriptor) :
    ∃ found, site.routes.resolve path = some found ∧ found.fallback = false ∧
      found.handler = entry.1.descriptor := by
  obtain ⟨route, hroute, hof⟩ := h.exists_route hentry
  obtain ⟨found, hfound, hfallback⟩ :=
    RouteTable.resolve_of_matches hpath hroute (hmatches route hof)
  obtain ⟨relative', hrelative', other, hother, taken, data, hof', hmatches', rfl⟩ :=
    h.exists_resolved hfound hfallback
  obtain rfl : relative = relative' := Option.some.inj (hpath.symm.trans hrelative')
  exact ⟨_, hfound, hfallback, hof'.handler.trans (honly other hother taken hof' hmatches')⟩

theorem fault_of_error {error : ConfigurationError} (h : declaration.assemble = .error error) :
    declaration.Fault error := by
  unfold assemble at h
  cases hviews : Registry.registerAll { kind := "view" } declaration.views with
  | error e =>
    rw [hviews] at h
    obtain rfl : e = error := Except.error.inj h
    obtain ⟨rfl, hempty⟩ := Registry.registerAll_error hviews
    exact .view hempty
  | ok views =>
    have hall := (Registry.registerAll_ok hviews).1
    cases hbuilders : Registry.registerAll { kind := "builder" } declaration.named with
    | error e =>
      rw [hviews, hbuilders] at h
      obtain rfl : e = error := Except.error.inj h
      obtain ⟨rfl, entry, hentry, hempty⟩ := Registry.registerAll_error hbuilders
      obtain ⟨definition, hmem, hdefinition⟩ := List.mem_filterMap.mp hentry
      obtain ⟨identifier, hidentifier, rfl⟩ := Option.map_eq_some_iff.mp hdefinition
      obtain rfl : identifier = "" := hempty
      exact .identifier hall
        ⟨definition, hmem, BuilderDeclaration.effectiveIdentifier_eq_some_iff.mp hidentifier⟩
    | ok builders =>
      cases htable : RouteTable.build declaration.routed declaration.pathOptions with
      | ok table =>
        rw [hviews, hbuilders, htable] at h
        cases h
      | error e =>
        rw [hviews, hbuilders, htable] at h
        obtain rfl : e = error := Except.error.inj h
        have hnamed := declaration.forall_named_iff.mp (Registry.registerAll_ok hbuilders).1
        obtain ⟨earlier, entry, later, hroutes, hearlier, hfault⟩ := RouteTable.build_error htable
        exact .route hall hnamed hroutes hearlier hfault

theorem Fault.not_sound {error : ConfigurationError} (h : declaration.Fault error) :
    ¬ declaration.Sound := by
  rintro ⟨hviews, hbuilders, hroutes⟩
  cases h with
  | view h =>
    obtain ⟨view, hmem, hempty⟩ := h
    exact hviews view hmem hempty
  | identifier _ h =>
    obtain ⟨definition, hmem, hempty⟩ := h
    exact hbuilders definition hmem hempty
  | route _ _ hsplit _ h => exact h.not_sound (hsplit ▸ hroutes)

theorem assemble_isOk_iff (declaration : SiteDeclaration) :
    (∃ site fresh, declaration.assemble = .ok (site, fresh)) ↔ declaration.Sound := by
  refine ⟨fun ⟨site, fresh, h⟩ => (assembled_of_ok h).2, fun hsound => ?_⟩
  cases h : declaration.assemble with
  | ok assembled => exact ⟨_, _, rfl⟩
  | error e => exact absurd hsound (fault_of_error h).not_sound

/-- The routes of a declaration that places none of them under a stem: those that it writes down. -/
def written (declaration : SiteDeclaration) : List (BuilderDeclaration × RouteDeclaration) :=
  declaration.builders.flatMap fun definition =>
    definition.routes.map fun decl => (definition, decl)

theorem declared_eq_written (hroutes : ∀ definition ∈ declaration.builders, definition.routes ≠ [])
    (hwhole : ∀ entry ∈ declaration.written, dropStart? "/" entry.2.pattern = none) :
    declaration.declared = declaration.written := by
  refine List.flatMap_congr fun definition hmem => ?_
  rw [contributedRoutes_of_whole (hroutes definition hmem) fun route hroute =>
    hwhole (definition, route)
      (List.mem_flatMap.mpr ⟨definition, hmem, List.mem_map_of_mem hroute⟩)]

/-- **A site from a declaration that writes its routes down**: it can be assembled if the
identifiers are not empty and the patterns are distinct and compile. -/
theorem exists_assembled {views : Registry View} {builders : Registry Builder}
    (hviews : Registry.registerAll { kind := "view" } declaration.views = .ok views)
    (hbuilders : Registry.registerAll { kind := "builder" } declaration.named = .ok builders)
    (hdeclared : declaration.declared = declaration.written)
    (hdistinct : (declaration.written.map fun entry => entry.2.pattern).Nodup)
    (hcompiled : ∀ entry ∈ declaration.written, (Pattern.compile? entry.2.pattern).isSome) :
    ∃ site fresh, declaration.assemble = .ok (site, fresh) ∧
      fresh = { views := views, builders := builders } := by
  have hsound : declaration.Sound := declaration.sound_iff.mpr
    ⟨(Registry.registerAll_ok hviews).1, (Registry.registerAll_ok hbuilders).1,
      hdeclared ▸ hdistinct, hdeclared ▸ hcompiled⟩
  obtain ⟨site, fresh, h⟩ := declaration.assemble_isOk_iff.mpr hsound
  exact ⟨site, fresh, h, fresh_of_ok h hviews hbuilders⟩

/-- The builder that serves all other paths adds nothing else. -/
theorem assemble_notFound (declaration : SiteDeclaration) (notFound : Option (Descriptor Builder)) :
    { declaration with notFound := notFound }.assemble =
      declaration.assemble.map fun (site, fresh) =>
        let fallback := notFound.map fun descriptor => (descriptor.typeName, descriptor)
        ({ site with routes := { site.routes with fallback := fallback } }, fresh) := by
  let other : SiteDeclaration := { declaration with notFound := notFound }
  unfold assemble
  cases hviews : Registry.registerAll { kind := "view" } declaration.views with
  | error e => rfl
  | ok views =>
    rw [show other.named = declaration.named from rfl]
    cases hbuilders : Registry.registerAll { kind := "builder" } declaration.named with
    | error e => rfl
    | ok builders =>
      rw [show other.routed = declaration.routed from rfl,
        show other.pathOptions = declaration.pathOptions from rfl]
      cases htable : RouteTable.build declaration.routed declaration.pathOptions with
      | error e => rfl
      | ok table =>
        have hnone := (RouteTable.build_ok htable).2.fallback
        dsimp only [Except.map, bind, Except.bind, pure, Except.pure]
        rw [elim_fallingBackTo hnone, elim_fallingBackTo hnone]

end SiteDeclaration

/-! ## Own constructors -/

/-- **Construct a builder by a constructor of the descriptor's own**, whatever the registry
keeps. -/
def Render.ownBuilder (descriptor : Descriptor Builder) (args : ConstructorArgs) :
    Render Builder := fun rendering =>
  match descriptor.construct args with
  | .error e => (.error (.error (.configuration e)), rendering)
  | .ok builder =>
    let builders := (rendering.shared.builders.construct descriptor args).2
    Render.noteCreated builder
      { rendering with shared := { rendering.shared with builders := builders } }

/-- Where what is kept does not show, a registry constructs by the descriptor's own constructor. -/
theorem Ground.Keeps.constructFrom {ground : Ground} {start : Rendering}
    (h : ground.Keeps start.shared) {descriptor : Descriptor Builder}
    (hmade : descriptor ∈ ground.builders) (args : ConstructorArgs) :
    Render.constructFrom descriptor args start = Render.ownBuilder descriptor args start := by
  obtain ⟨next, hnumbered⟩ := ground.numberedBuilders
  have hown := Registry.construct_eq hnumbered h.builders.coherent hmade args
  unfold Render.constructFrom Render.constructBy Render.ownBuilder
  dsimp only
  rw [← hown]
  cases hconstruct : (start.shared.builders.construct descriptor args).1 with
  | ok builder =>
    rw [show start.shared.builders.construct descriptor args =
      (.ok builder, (start.shared.builders.construct descriptor args).2) from
        Prod.ext hconstruct rfl]
  | error e =>
    have hsame := Registry.construct_error hconstruct
    rw [show start.shared.builders.construct descriptor args =
      (.error e, start.shared.builders) from Prod.ext hconstruct hsame]

/-- A tag that is not on the page is left to the builders of the site. -/
theorem Page.answerTag_of_absent {page : Page Ready} {tag : String}
    (h : page.component? tag = none) (context : Context) (inner : Inner) (seen : List String)
    (start : Rendering) :
    page.answerTag context inner tag seen start =
      (match start.shared.builders.get? tag with
        | none => pure ()
        | some descriptor => do
          Render.measure (.nestedBuild .registry)
          inner.builder (← Render.constructFrom descriptor { request := context.request }) 0
        : Render Unit) start := by
  unfold answerTag
  rw [h]
  rfl

/-! ## Moments of a site's life -/

/-- **What outlives requests at any moment**: what the steps of requests make of what there is
before the first. The steps may be those of many requests, in whatever order, and each request may
be in the middle of its page. -/
inductive Site.Reaches (site : Site) (fresh : Shared) : Shared → Prop
  | fresh : Reaches site fresh fresh
  /-- A template is located. -/
  | located {shared : Shared} (h : Reaches site fresh shared) (name : String) :
    Reaches site fresh { shared with
      located := (site.templates.openTemplate shared.located name
        site.settings.templates.searchRoot).2 }
  /-- A view is constructed. -/
  | view {shared : Shared} (h : Reaches site fresh shared) (identifier : String)
    (args : ConstructorArgs) :
    Reaches site fresh { shared with views := (shared.views.create identifier args).2 }
  /-- A builder is constructed that is registered under an identifier. -/
  | builder {shared : Shared} (h : Reaches site fresh shared) {identifier : String}
    {descriptor : Descriptor Builder}
    (hget : shared.builders.get? identifier = some descriptor) (args : ConstructorArgs) :
    Reaches site fresh { shared with builders := (shared.builders.construct descriptor args).2 }
  /-- The builder is constructed that a path leads to. -/
  | served {shared : Shared} (h : Reaches site fresh shared) {path : String}
    {found : Destination (Descriptor Builder)} (hfound : site.routes.resolve path = some found)
    (args : ConstructorArgs) :
    Reaches site fresh { shared with builders := (shared.builders.construct found.handler args).2 }

namespace Site

variable {site : Site} {fresh : Shared}

/-- **Requests lead from one moment to another**, however deep their components may nest and
wherever they end. -/
theorem handle_reaches (depth : Nat) (request : Request) :
    (site.handle depth request).Preserves (site.Reaches fresh) := by
  have hstable : (site.context request).Stable (site.Reaches fresh) := ⟨.located, .view, .builder⟩
  have hcongruence := hstable.congruence
  have hmeasure (measurement : Measurement) :
      (Render.measure measurement).Preserves (site.Reaches fresh) := fun _ hstart => hstart
  have hpure {α : Type} (a : α) : (pure a : Render α).Preserves (site.Reaches fresh) :=
    fun _ hstart => hstart
  unfold handle
  cases hfound : site.routes.resolve request.path with
  | none => exact .bind (hmeasure _) fun _ => hpure _
  | some found =>
    have hconstruct (args : ConstructorArgs) :
        (Render.constructFrom found.handler args).Preserves (site.Reaches fresh) := by
      intro start hstart
      rw [Render.constructFrom, Render.constructBy_shared]
      exact .served hstart hfound args
    have hbuild (builder : Builder) := hcongruence.builder (hcongruence.level depth) builder 0
    refine .bind ?_ fun _ => hpure _
    unfold serve
    dsimp only
    split
    · exact .bind (hmeasure _) fun _ => .bind (hconstruct _) fun builder =>
        .bind (hbuild builder) fun _ => hpure _
    · exact .bind (hconstruct _) fun builder => .bind (hbuild builder) fun _ => hpure _

/-- So there is such a moment after every history of requests. -/
theorem reaches_after (history : List Visit) : site.Reaches fresh (site.after fresh history) := by
  have hall {shared : Shared} (h : site.Reaches fresh shared) :
      site.Reaches fresh (site.after shared history) := by
    induction history generalizing shared with
    | nil => exact h
    | cons visit history ih => exact ih (handle_reaches visit.depth visit.request _ h)
  exact hall .fresh

end Site

namespace SiteDeclaration

variable {declaration : SiteDeclaration} {site : Site} {fresh : Shared}

/-- A path leads to a route that a definition declares. -/
structure Leads (found : Destination (Descriptor Builder)) (definition : BuilderDeclaration)
    (decl : RouteDeclaration) : Prop where
  declared : decl ∈ contributedRoutes definition.descriptor.typeName definition.routes
  routeId : found.routeId = decl.id
  pattern : found.pattern = some decl.pattern
  typeName : found.typeName = definition.descriptor.typeName
  handler : found.handler = definition.descriptor

theorem exists_leads (h : declaration.assemble = .ok (site, fresh)) {path : String}
    {found : Destination (Descriptor Builder)} (hfound : site.routes.resolve path = some found)
    (hroute : found.fallback = false) :
    ∃ definition ∈ declaration.builders, ∃ decl, Leads found definition decl := by
  obtain ⟨-, -, entry, hentry, route, data, hof, -, rfl⟩ :=
    (assembled_of_ok h).1.exists_resolved hfound hroute
  obtain ⟨definition, hdefinition, hexpanded⟩ := List.mem_flatMap.mp hentry
  obtain ⟨decl, hdecl, rfl⟩ := List.mem_map.mp hexpanded
  exact ⟨definition, hdefinition, decl, hdecl, hof.id, congrArg some hof.pattern, hof.typeName,
    hof.handler⟩

section Moments

variable (hnumbered : declaration.Numbered) (h : declaration.assemble = .ok (site, fresh))

include hnumbered h

/-- **What is kept at any moment does not show.** -/
theorem keeps_of_reaches {shared : Shared} (hreaches : site.Reaches fresh shared) :
    (declaration.ground hnumbered fresh).Keeps shared := by
  have hover := Site.over_of_ok hnumbered h
  obtain ⟨next, hviews⟩ := hnumbered.views
  induction hreaches with
  | fresh => exact declaration.keeps_fresh hnumbered h
  | @located shared _ name ih =>
    have hunder := hover.under {}
    rw [show site.templates = (declaration.ground hnumbered fresh).templates from hunder.templates,
      show site.settings.templates.searchRoot = (declaration.ground hnumbered fresh).searchRoot
        from hunder.searchRoot]
    exact ih.relocated (ih.located.openTemplate name).2
  | view _ identifier args ih =>
    exact ⟨(ih.views.create hviews identifier args).2, ih.builders, ih.located⟩
  | builder _ hget args ih =>
    have hmade := ih.builders.mem_made ((ih.builders.get? _).symm.trans hget)
    exact ih.refilled (ih.builders.construct hmade args)
  | served _ hfound args ih =>
    exact ih.refilled (ih.builders.construct (hover.handler hfound) args)

/-- A request on a route is served by a builder that the handler constructs by itself. -/
theorem handle_own (depth : Nat) {request : Request} {found : Destination (Descriptor Builder)}
    (hfound : site.routes.resolve request.path = some found)
    (hroute : found.fallback = false) {start : Rendering}
    (hstart : site.Reaches fresh start.shared) :
    site.handle depth request start =
      (do
        let builder ← Render.ownBuilder found.handler
          { request := request, pathData := found.pathData, routeId := found.routeId }
        builder.build (site.context request) (Inner.level (site.context request) depth) 0
        return some { routeId := found.routeId, builder := found.typeName, fallback := false }
        : Render (Option Dispatch)) start := by
  have hkeeps := keeps_of_reaches hnumbered h hstart
  have hmade := handler_mem h hfound
  simp only [Site.handle, hfound, Site.serve, hroute, Bool.false_eq_true, if_false, pure_bind,
    bind_assoc]
  rw [Render.bind_apply, Render.bind_apply, hkeeps.constructFrom hmade]

/-- What a site has under a tag at any moment. -/
theorem get?_of_reaches {tag : String} {definition : BuilderDeclaration}
    (hlast : IsLast (fun other => other.GoesUnder tag) declaration.builders definition)
    {shared : Shared} (hshared : site.Reaches fresh shared) :
    shared.builders.get? tag = some definition.descriptor :=
  ((keeps_of_reaches hnumbered h hshared).builders.get? tag).trans
    (((assembled_of_ok h).1.builders.get? tag _).mpr ⟨definition, hlast, rfl⟩)

/-- A tag that is not on the page is answered by the last definition that goes under it. -/
theorem answerTag_own {tag : String} {definition : BuilderDeclaration}
    (hlast : IsLast (fun other => other.GoesUnder tag) declaration.builders definition)
    (context : Context) (inner : Inner) {page : Page Ready} (hpage : page.component? tag = none)
    (seen : List String) {start : Rendering} (hstart : site.Reaches fresh start.shared) :
    page.answerTag context inner tag seen start =
      (do
        Render.measure (.nestedBuild .registry)
        inner.builder (← Render.ownBuilder definition.descriptor { request := context.request }) 0
        : Render Unit) start := by
  have hkeeps := keeps_of_reaches hnumbered h hstart
  have hget := get?_of_reaches hnumbered h hlast hstart
  have hmade := hkeeps.builders.mem_made ((hkeeps.builders.get? tag).symm.trans hget)
  let measured : Rendering :=
    { start with measurements := .nestedBuild .registry :: start.measurements }
  have hmeasured : (declaration.ground hnumbered fresh).Keeps measured.shared := hkeeps
  have hown : Render.constructFrom definition.descriptor { request := context.request } measured =
      Render.ownBuilder definition.descriptor { request := context.request } measured :=
    hmeasured.constructFrom hmade _
  rw [Page.answerTag_of_absent hpage, hget]
  dsimp only
  rw [Render.bind_apply, Render.bind_apply]
  rw [show Render.measure (.nestedBuild .registry) start = (.ok (), measured) from rfl]
  dsimp only
  rw [Render.bind_apply, Render.bind_apply, hown]

theorem answerTag_none {tag : String}
    (hnone : ∀ definition ∈ declaration.builders, ¬ definition.GoesUnder tag)
    (context : Context) (inner : Inner) {page : Page Ready} (hpage : page.component? tag = none)
    (seen : List String) {start : Rendering} (hstart : site.Reaches fresh start.shared) :
    page.answerTag context inner tag seen start = (.ok (), start) := by
  have hkeeps := keeps_of_reaches hnumbered h hstart
  have hget : start.shared.builders.get? tag = none := by
    refine (hkeeps.builders.get? tag).trans (Option.not_isSome_iff_eq_none.mp fun hsome => ?_)
    obtain ⟨definition, hmem, hgoes⟩ :=
      ((assembled_of_ok h).1.builders.contains tag).mp hsome
    exact hnone definition hmem hgoes
  rw [Page.answerTag_of_absent hpage, hget]
  rfl

end Moments

/-- **What assembling gives.** It fails with the error of the first step that fails: a view without
an identifier, a builder under the empty one, a route at fault. Otherwise each registry has the last
thing that was given under each identifier, and the table the routes of every definition, with the
descriptor that declares them for the handler. The builder of all other paths adds nothing to
either.

At any moment from then on, a request on a route is served by what the definition that declares the
route constructs by itself, although another may have taken over its identifier; a tag that is not
on the page is answered by the definition that took it over, and by nothing if there is none. -/
theorem assemble_spec (declaration : SiteDeclaration) :
    (match declaration.assemble with
      | .error error => declaration.Fault error
      | .ok (site, fresh) => declaration.Assembled site fresh) ∧
    ((∃ site fresh, declaration.assemble = .ok (site, fresh)) ↔ declaration.Sound) ∧
    (∀ notFound, { declaration with notFound := notFound }.assemble =
      declaration.assemble.map fun (site, fresh) =>
        let fallback := notFound.map fun descriptor => (descriptor.typeName, descriptor)
        ({ site with routes := { site.routes with fallback := fallback } }, fresh)) ∧
    ∀ site fresh, declaration.Numbered → declaration.assemble = .ok (site, fresh) →
      ∀ start : Rendering, site.Reaches fresh start.shared →
      (∀ depth request found, site.routes.resolve request.path = some found →
        found.fallback = false →
        (∃ definition ∈ declaration.builders, ∃ decl, Leads found definition decl) ∧
        site.handle depth request start =
          (do
            let builder ← Render.ownBuilder found.handler
              { request := request, pathData := found.pathData, routeId := found.routeId }
            builder.build (site.context request) (Inner.level (site.context request) depth) 0
            return some
              { routeId := found.routeId, builder := found.typeName, fallback := false }
            : Render (Option Dispatch)) start) ∧
      ∀ context inner (page : Page Ready) tag seen, page.component? tag = none →
        (∀ definition, IsLast (fun other => other.GoesUnder tag) declaration.builders definition →
          page.answerTag context inner tag seen start =
            (do
              Render.measure (.nestedBuild .registry)
              inner.builder
                (← Render.ownBuilder definition.descriptor { request := context.request }) 0
              : Render Unit) start) ∧
        ((∀ definition ∈ declaration.builders, ¬ definition.GoesUnder tag) →
          page.answerTag context inner tag seen start = (.ok (), start)) := by
  refine ⟨?_, declaration.assemble_isOk_iff, declaration.assemble_notFound,
    fun site fresh hnumbered h start hstart =>
      ⟨fun depth request found hfound hroute =>
        ⟨exists_leads h hfound hroute, handle_own hnumbered h depth hfound hroute hstart⟩,
      fun context inner page tag seen hpage =>
        ⟨fun definition hlast => answerTag_own hnumbered h hlast context inner hpage seen hstart,
          fun hnone => answerTag_none hnumbered h hnone context inner hpage seen hstart⟩⟩⟩
  cases h : declaration.assemble with
  | ok assembled => exact (assembled_of_ok h).1
  | error e => exact fault_of_error h

/-- Two definitions under one identifier: the first serves its route, the second its tag. -/
theorem assemble_spec_takeover :
    let make (text : String) : Constructor Builder := fun _ => .plain "News" (.text text)
    let old : Descriptor Builder := { id := 2, typeName := "Old", fromContext := some (make "old") }
    let new : Descriptor Builder := { id := 4, typeName := "New", fromContext := some (make "new") }
    let declaration : SiteDeclaration :=
      { templates := .memory []
        builders := [⟨old, some "news", [⟨1, "", 9⟩]⟩, ⟨new, some "news", [⟨2, "(?-i)x", 5⟩]⟩] }
    declaration.Numbered ∧ ∃ site fresh, declaration.assemble = .ok (site, fresh) ∧
      let start : Rendering := { shared := fresh }
      let inner := Inner.level (site.context {}) 1
      ∃ found, site.routes.resolve "/" = some found ∧ found.handler = old ∧
        site.handle 1 {} start =
          (do
            let builder ← Render.ownBuilder old
              { request := {}, pathData := found.pathData, routeId := found.routeId }
            builder.build (site.context {}) inner 0
            return some { routeId := found.routeId, builder := found.typeName, fallback := false }
            : Render (Option Dispatch)) start ∧
        ({} : Page Ready).answerTag (site.context {}) inner "news" [] start =
          (do
            Render.measure (.nestedBuild .registry)
            inner.builder (← Render.ownBuilder new { request := {} }) 0
            : Render Unit) start := by
  intro make old new declaration
  have hnumbered : declaration.Numbered := numbered_of_made []
    [.describe "Old", .extend 0 .context (make "old"), .describe "New",
      .extend 2 .context (make "new")]
    (List.nil_subset _)
    (List.cons_subset.mpr ⟨List.mem_of_getElem? (i := 1) rfl,
      List.cons_subset.mpr ⟨List.mem_of_getElem? (i := 3) rfl, List.nil_subset _⟩⟩)
  let letter : Pattern.Program := ⟨#[.accept, .one (.single 'x') 0], 1⟩
  have hall : Pattern.compile? "" = some ⟨[], ⟨#[.accept], 0⟩⟩ := by decide +kernel
  have hletter : Pattern.compile? "(?-i)x" = some ⟨[], letter⟩ := by decide +kernel
  have hmisses : ¬ (letter.search "~/").isSome := by
    have hcs : "~/".toList = ['~', '/'] := by decide +kernel
    have htilde : (Unicode.CharSet.single 'x').has '~' = false := by decide +kernel
    have hslash : (Unicode.CharSet.single 'x').has '/' = false := by decide +kernel
    simp [letter, Pattern.Program.search, hcs, Pattern.Program.starts,
      Pattern.Program.searchSteps, Pattern.Program.explore, Pattern.Instr.step, htilde, hslash]
  have hdeclared : declaration.declared =
      [(⟨old, some "news", [⟨1, "", 9⟩]⟩, ⟨1, "", 9⟩),
        (⟨new, some "news", [⟨2, "(?-i)x", 5⟩]⟩, ⟨2, "(?-i)x", 5⟩)] :=
    declared_eq_written (by decide +kernel) (by decide +kernel)
  obtain ⟨site, fresh, h, -⟩ :=
    exists_assembled rfl rfl hdeclared (by decide +kernel) (by decide +kernel)
  have hassembled := (assembled_of_ok h).1
  have hpath : site.routes.appRelative? "/" = some "~/" := by
    rw [RouteTable.appRelative?, hassembled.options]
    decide +kernel
  obtain ⟨found, hfound, hfallback, (hhandler : found.handler = old)⟩ :=
    hassembled.exists_handled hpath (hdeclared ▸ List.mem_cons_self)
      (fun route hof => by
        rw [hof.matches_iff hall]
        decide +kernel)
      (fun other hother route hof hmatches => by
        rcases List.mem_pair.mp (hdeclared ▸ hother) with rfl | rfl
        · rfl
        · rw [hof.matches_iff hletter] at hmatches
          exact absurd hmatches hmisses)
  have hlast : IsLast (fun other => other.GoesUnder "news") declaration.builders
      ⟨new, some "news", [⟨2, "(?-i)x", 5⟩]⟩ :=
    ⟨.given rfl (by decide), [_], [], rfl, List.forall_mem_nil _⟩
  obtain ⟨hroutes, htags⟩ := (assemble_spec declaration).2.2.2 site fresh hnumbered h
    { shared := fresh } .fresh
  obtain ⟨-, hhandle⟩ := hroutes 1 {} found hfound hfallback
  refine ⟨hnumbered, site, fresh, h, found, hfound, hhandler, ?_,
    (htags (site.context {}) _ {} "news" [] rfl).1 _ hlast⟩
  rw [← hhandler]
  exact hhandle

end SiteDeclaration

end Folio
