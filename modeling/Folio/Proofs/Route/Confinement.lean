import Folio.Proofs.Pattern.Beginning
import Folio.Proofs.Route.Resolution
import Folio.Proofs.Scanner.Reading

/-!
# Fragments under a stem

A fragment is placed under the stem of its builder as text: the two are one pattern, which is read
as a whole. So a fragment stays under the stem as long as no bar stands in it outside of groups.
What stands behind such a bar is free of the stem and of the anchor.

* `BeginsUnder`: relative paths below a stem.
* `RouteDeclaration.Held`: fragments without such a bar.
* `search_barred_fragment`: what a fragment with such a bar matches.
* **`RouteTable.resolve_confined`**: the others only match paths below the stem, and a builder that
  declares no other routes is only given such paths.
* **`RouteTable.resolve_barred`**: a bar leads out of the stem.
-/

namespace Folio

open Pattern (IsPlain)
open Unicode (foldCase)

/-- **The relative path begins with the stem**, up to case. -/
def BeginsUnder (stem relative : String) : Prop :=
  ("~/" ++ stem).toList.map foldCase <+: relative.toList.map foldCase

instance (stem relative : String) : Decidable (BeginsUnder stem relative) :=
  inferInstanceAs (Decidable (_ <+: _))

/-- **A fragment without a bar outside of groups**, when it stands under the stem. -/
structure RouteDeclaration.Held (stem : String) (decl : RouteDeclaration) : Prop where
  fragment : (dropStart? "/" decl.pattern).isSome
  unbarred : ¬ Pattern.Barred (fullPattern stem decl.pattern)

/-! ## Patterns under a stem -/

theorem fullPattern_of_fragment {pattern : String} (h : (dropStart? "/" pattern).isSome)
    (stem : String) :
    ∃ more, (fullPattern stem pattern).toList = '^' :: (("~/" ++ stem).toList ++ '/' :: more) := by
  obtain ⟨rest, hrest⟩ := Option.isSome_iff_exists.mp h
  obtain rfl := dropStart?_eq_some.mp hrest
  refine ⟨rest.toList, ?_⟩
  rw [fullPattern, if_pos h]
  simp [String.toList_append]

theorem isPlain_under {stem : String} (hplain : IsPlain stem.toList) :
    IsPlain ("~/" ++ stem).toList := by
  have hroot : IsPlain "~/".toList := by decide +kernel
  intro c hmem
  rw [String.toList_append] at hmem
  exact (List.mem_append.mp hmem).elim (hroot c) (hplain c)

/-- A fragment only matches what begins with the stem. -/
theorem beginsUnder_of_search {stem : String} (hplain : IsPlain stem.toList)
    {decl : RouteDeclaration} (hheld : decl.Held stem) {expression : Pattern.Expression}
    (hcompile : Pattern.compile? (fullPattern stem decl.pattern) = some expression)
    {relative : String} (hsearch : (expression.program.search relative).isSome) :
    BeginsUnder stem relative := by
  obtain ⟨more, hpattern⟩ := fullPattern_of_fragment hheld.fragment stem
  exact Pattern.begins_of_search hpattern (isPlain_under hplain) rfl hheld.unbarred hcompile
    hsearch

/-- **What a fragment of two texts with a bar between them matches**: what begins with the stem and
the first text, and what holds the second anywhere. -/
theorem search_barred_fragment {stem a b : String}
    (hplain : IsPlain (stem ++ "/" ++ a ++ b).toList)
    {expression : Pattern.Expression}
    (hcompile : Pattern.compile? (fullPattern stem ("/" ++ a ++ "|" ++ b)) = some expression)
    (relative : String) :
    (expression.program.search relative).isSome ↔
      BeginsUnder (stem ++ "/" ++ a) relative ∨
        b.toList.map foldCase <:+: relative.toList.map foldCase := by
  have hfragment : (dropStart? "/" ("/" ++ a ++ "|" ++ b)).isSome := by
    rw [String.append_assoc, String.append_assoc]
    exact Option.isSome_of_eq_some (dropStart?_eq_some.mpr rfl)
  have hpattern : (fullPattern stem ("/" ++ a ++ "|" ++ b)).toList =
      '^' :: (("~/" ++ (stem ++ "/" ++ a)).toList ++ '|' :: b.toList) := by
    rw [fullPattern, if_pos hfragment]
    simp [String.toList_append]
  rw [String.toList_append] at hplain
  have hfirst : IsPlain (stem ++ "/" ++ a).toList := fun c hmem =>
    hplain c (List.mem_append_left _ hmem)
  have hsecond : IsPlain b.toList := fun c hmem => hplain c (List.mem_append_right _ hmem)
  exact Pattern.search_barred hpattern (isPlain_under hfirst) hsecond hcompile

/-! ## Routes under a stem -/

namespace RouteTable

variable {η : Type} {builders : List (RoutedBuilder η)} {options : PathOptions}
  {table : RouteTable η}

theorem mem_expanded_iff {builder : RoutedBuilder η} {decl : RouteDeclaration} :
    (builder, decl) ∈ expanded builders ↔
      builder ∈ builders ∧ decl ∈ contributedRoutes builder.typeName builder.declared := by
  rw [expanded, List.mem_flatMap]
  constructor
  · rintro ⟨other, hmem, hentry⟩
    obtain ⟨route, hroute, heq⟩ := List.mem_map.mp hentry
    obtain ⟨rfl, rfl⟩ := Prod.mk.inj heq
    exact ⟨hmem, hroute⟩
  · rintro ⟨hmem, hroute⟩
    exact ⟨builder, hmem, List.mem_map_of_mem hroute⟩

theorem firstMatch?_eq_some {relative : String} {found : Destination η}
    (h : table.firstMatch? relative = some found) :
    ∃ route ∈ table.routes, route.Matches relative ∧ ∃ data, found = destination route data := by
  obtain ⟨route, hmem, hroute⟩ := List.exists_of_findSome?_eq_some h
  obtain ⟨data, hdata, rfl⟩ := Option.map_eq_some_iff.mp hroute
  exact ⟨route, hmem, Route.parameters?_isSome.mp (Option.isSome_of_eq_some hdata), data, rfl⟩

/-- A path that is not left to the fallback is given to a route that matches it. -/
theorem resolve_route {fallback : Option (String × η)} {path : String} {found : Destination η}
    (h : resolve { table with fallback := fallback } path = some found)
    (hroute : found.fallback = false) :
    ∃ relative, table.appRelative? path = some relative ∧
      ∃ route ∈ table.routes, route.Matches relative ∧ ∃ data, found = destination route data := by
  unfold resolve at h
  split at h
  · next found' hfirst =>
    obtain rfl := Option.some.inj h
    obtain ⟨relative, hrelative, hfirst⟩ := Option.bind_eq_some_iff.mp hfirst
    exact ⟨relative, hrelative, firstMatch?_eq_some hfirst⟩
  · obtain ⟨entry, -, rfl⟩ := Option.map_eq_some_iff.mp h
    cases hroute

/-- A path that a route matches is not left to the fallback. -/
theorem resolve_of_matches {path relative : String}
    (hrelative : table.appRelative? path = some relative) {route : Route η}
    (hmem : route ∈ table.routes) (hmatches : route.Matches relative) :
    ∃ found, resolve table path = some found ∧ found.fallback = false := by
  have hfirst : (table.firstMatch? relative).isSome := by
    refine List.findSome?_isSome_iff.mpr ⟨route, hmem, ?_⟩
    rw [Option.isSome_map]
    exact Route.parameters?_isSome.mpr hmatches
  obtain ⟨found, hfound⟩ := Option.isSome_iff_exists.mp hfirst
  obtain ⟨first, -, -, data, rfl⟩ := firstMatch?_eq_some hfound
  refine ⟨destination first data, ?_, rfl⟩
  rw [resolve, hrelative, Option.bind_some, hfound]

/-- A table of one fragment gives its builder all paths that the fragment matches. -/
theorem resolve_single (typeName : String) (handler : η) (decl : RouteDeclaration)
    (options : PathOptions) {expression : Pattern.Expression}
    (hcompile : Pattern.compile? (fullPattern (stemOf typeName) decl.pattern) = some expression) :
    ∃ table, build [⟨typeName, handler, [decl]⟩] options = .ok table ∧ table.options = options ∧
      ∀ path relative, table.appRelative? path = some relative →
        (expression.program.search relative).isSome →
        ∃ found, resolve table path = some found ∧ found.fallback = false ∧
          found.typeName = typeName := by
  let full : RouteDeclaration :=
    { decl with pattern := fullPattern (stemOf typeName) decl.pattern }
  obtain ⟨table, htable, hholds⟩ := exists_holds ⟨typeName, handler, [decl]⟩ options
    (contributedRoutes_of_ne_nil (List.cons_ne_nil decl [])) (List.nodup_singleton full.pattern)
    (List.forall_mem_singleton.mpr (Option.isSome_of_eq_some hcompile))
  have hroute (route : Route η) : route ∈ table.routes ↔
      route = ⟨decl.id, decl.priority, full.pattern, expression, typeName, handler⟩ := by
    simp [hholds.mem_routes_iff, Declared.route?, hcompile, full, eq_comm]
  refine ⟨table, htable, hholds.options, fun path relative hrelative hsearch => ?_⟩
  have hmem := (hroute _).mpr rfl
  obtain ⟨found, hfound, hfallback⟩ := resolve_of_matches hrelative hmem hsearch
  refine ⟨found, hfound, hfallback, ?_⟩
  -- Whichever route it is, it is one of the builder's.
  obtain ⟨_, _, other, hother, _, _, rfl⟩ := resolve_route hfound hfallback
  obtain rfl := (hroute other).mp hother
  rfl

/-- **Fragments stay under the stem** of their builder, if no bar stands in them outside of groups
and the stem is plain text. A builder that declares such fragments alone is never given a path
outside of its stem. -/
theorem resolve_confined (h : build builders options = .ok table) (typeName : String)
    (hplain : IsPlain (stemOf typeName).toList) :
    (∀ builder ∈ builders, builder.typeName = typeName →
      ∀ decl ∈ builder.declared, decl.Held (stemOf typeName) →
      ∃ route ∈ table.routes, route.pattern = fullPattern (stemOf typeName) decl.pattern ∧
        route.typeName = typeName ∧ route.handler = builder.handler ∧
        ∀ relative, route.Matches relative → BeginsUnder (stemOf typeName) relative) ∧
    ((∀ builder ∈ builders, builder.typeName = typeName →
        builder.declared ≠ [] ∧ ∀ decl ∈ builder.declared, decl.Held (stemOf typeName)) →
      ∀ fallback path found, resolve { table with fallback := fallback } path = some found →
        found.fallback = false → found.typeName = typeName →
        ∃ relative, table.appRelative? path = some relative ∧
          BeginsUnder (stemOf typeName) relative) := by
  obtain ⟨hsound, hholds⟩ := build_ok h
  constructor
  · rintro builder hbuilder rfl decl hdecl hheld
    have hne : builder.declared ≠ [] := List.ne_nil_of_mem hdecl
    have hentry : ((builder, { decl with
        pattern := fullPattern (stemOf builder.typeName) decl.pattern }) : Declared η) ∈
        expanded builders := by
      refine mem_expanded_iff.mpr ⟨hbuilder, ?_⟩
      rw [contributedRoutes_of_ne_nil hne]
      exact List.mem_map_of_mem hdecl
    obtain ⟨expression, hcompile⟩ := Option.isSome_iff_exists.mp
      (hsound.compiled _ (List.mem_map_of_mem hentry))
    refine ⟨_, hholds.mem_routes_iff.mpr ⟨_, hentry, congrArg (Option.map _) hcompile⟩, rfl, rfl,
      rfl, fun relative hmatches => ?_⟩
    exact beginsUnder_of_search hplain hheld hcompile hmatches
  · intro honly fallback path found hresolve hroute htype
    obtain ⟨relative, hrelative, route, hmem, hmatches, data, rfl⟩ := resolve_route hresolve hroute
    refine ⟨relative, hrelative, ?_⟩
    obtain ⟨⟨builder, decl⟩, hentry, hdeclared⟩ := hholds.mem_routes_iff.mp hmem
    obtain ⟨expression, hcompile, rfl⟩ := Option.map_eq_some_iff.mp hdeclared
    obtain ⟨hbuilder, hdecl⟩ := mem_expanded_iff.mp hentry
    obtain ⟨hne, hheld⟩ := honly builder hbuilder htype
    rw [contributedRoutes_of_ne_nil hne] at hdecl
    obtain ⟨fragment, hfragment, rfl⟩ := List.mem_map.mp hdecl
    obtain rfl : builder.typeName = typeName := htype
    exact beginsUnder_of_search hplain (hheld fragment hfragment) hcompile hmatches

/-- A page of the stem, asked for in another case. -/
theorem resolve_confined_blog :
    let about : RouteDeclaration := ⟨1, "/about", 5⟩
    let blog : RoutedBuilder Nat := ⟨"BlogBuilder", 3, [about]⟩
    ∃ table, build [blog] { lowercasePaths := false } = .ok table ∧
      (∃ route ∈ table.routes, route.pattern = "^~/blog/about" ∧
        ∀ relative, route.Matches relative → BeginsUnder "blog" relative) ∧
      ∃ found, resolve table "/BLOG/About" = some found ∧ found.typeName = "BlogBuilder" ∧
        ∃ relative, table.appRelative? "/BLOG/About" = some relative ∧
          BeginsUnder "blog" relative := by
  intro about blog
  have hstem : stemOf "BlogBuilder" = "blog" := by decide +kernel
  have hplain : IsPlain (stemOf "BlogBuilder").toList := by decide +kernel
  have hpattern : fullPattern (stemOf "BlogBuilder") about.pattern = "^~/blog/about" := by
    decide +kernel
  have hcompiles : (Pattern.compile? "^~/blog/about").isSome := by decide +kernel
  obtain ⟨expression, hcompile⟩ := Option.isSome_iff_exists.mp hcompiles
  obtain ⟨table, htable, hoptions, hresolve⟩ :=
    resolve_single "BlogBuilder" 3 about { lowercasePaths := false } (hpattern ▸ hcompile)
  have hrelative : table.appRelative? "/BLOG/About" = some "~/BLOG/About" := by
    rw [appRelative?, hoptions]
    decide +kernel
  have htext : "^~/blog/about".toList = '^' :: "~/blog/about".toList := by decide +kernel
  have hbegins : "~/blog/about".toList.map foldCase <+: "~/BLOG/About".toList.map foldCase := by
    decide +kernel
  have hsearch : (expression.program.search "~/BLOG/About").isSome :=
    (Pattern.search_anchored htext (by decide +kernel) hcompile).mpr hbegins
  obtain ⟨found, hfound, hfallback, htype⟩ := hresolve _ _ hrelative hsearch
  have hheld : about.Held (stemOf "BlogBuilder") := ⟨by decide +kernel, by decide +kernel⟩
  obtain ⟨hroutes, hpaths⟩ := resolve_confined htable "BlogBuilder" hplain
  obtain ⟨route, hmem, hroute, -, -, hmatches⟩ :=
    hroutes blog List.mem_cons_self rfl about List.mem_cons_self hheld
  have honly : ∀ builder ∈ [blog], builder.typeName = "BlogBuilder" → builder.declared ≠ [] ∧
      ∀ decl ∈ builder.declared, decl.Held (stemOf "BlogBuilder") := by
    refine List.forall_mem_singleton.mpr fun _ => ⟨List.cons_ne_nil _ _, ?_⟩
    exact List.forall_mem_singleton.mpr hheld
  have hconfined := hpaths honly table.fallback "/BLOG/About" found hfound hfallback htype
  rw [hstem] at hmatches hconfined
  exact ⟨table, htable, ⟨route, hmem, hroute.trans hpattern, hmatches⟩, found, hfound, htype,
    hconfined⟩

/-- **A bar leads out of the stem**: the second half of a fragment catches the pages of others. -/
theorem resolve_barred :
    let pages : RouteDeclaration := ⟨1, "/guide|/about", 5⟩
    let blog : RoutedBuilder Nat := ⟨"BlogBuilder", 3, [pages]⟩
    ∃ table, build [blog] { lowercasePaths := false } = .ok table ∧
      ∃ found, resolve table "/docs/about" = some found ∧ found.typeName = "BlogBuilder" ∧
        found.fallback = false ∧ table.appRelative? "/docs/about" = some "~/docs/about" ∧
        ¬ BeginsUnder (stemOf "BlogBuilder") "~/docs/about" := by
  intro pages blog
  have hstem : stemOf "BlogBuilder" = "blog" := by decide +kernel
  have hpattern : pages.pattern = "/" ++ "guide" ++ "|" ++ "/about" := by decide +kernel
  have hcompiles : (Pattern.compile? (fullPattern "blog" pages.pattern)).isSome := by decide +kernel
  obtain ⟨expression, hcompile⟩ := Option.isSome_iff_exists.mp hcompiles
  obtain ⟨table, htable, hoptions, hresolve⟩ :=
    resolve_single "BlogBuilder" 3 pages { lowercasePaths := false } (hstem ▸ hcompile)
  have hrelative : table.appRelative? "/docs/about" = some "~/docs/about" := by
    rw [appRelative?, hoptions]
    decide +kernel
  rw [hpattern] at hcompile
  have hbegins : "/about".toList.map foldCase <:+: "~/docs/about".toList.map foldCase := by
    decide +kernel
  have hsearch : (expression.program.search "~/docs/about").isSome :=
    (search_barred_fragment (by decide +kernel) hcompile _).mpr (.inr hbegins)
  obtain ⟨found, hfound, hfallback, htype⟩ := hresolve _ _ hrelative hsearch
  exact ⟨table, htable, found, hfound, htype, hfallback, hrelative, by decide +kernel⟩

end RouteTable

end Folio
