import Mathlib.Data.List.Nodup
import Folio.Proofs.Pattern.Grammar
import Folio.Proofs.Registry.Lookup
import Folio.Proofs.Route.Building

/-!
# Where a path leads

The routes of a table are in strict order, so the first one that matches a path is the greatest of
all that do. The named groups of its pattern have distinct names, so the parameters of the path are
found alike by name and by position.

* `PathData.entries_ofList`, `PathData.at?_iff_get?`: values under distinct names.
* `Route.Matches`, **`RouteTable.Best`**: the greatest route that matches a path.
* `RouteTable.firstMatch?_of_best`, `RouteTable.exists_best`: it is found where one matches.
* **`RouteTable.resolve_best`**: a path leads to the greatest route that matches it.
-/

namespace Folio

/-! ## Values under distinct names -/

namespace PathData

theorem setEntry_of_new {key : String} {entries : List (String × String)}
    (h : key ∉ entries.map Prod.fst) (value : String) :
    setEntry key value entries = entries ++ [(key, value)] := by
  induction entries with
  | nil => rfl
  | cons entry rest ih =>
    obtain ⟨k, v⟩ := entry
    have hne : k ≠ key := fun heq => h (heq ▸ List.mem_cons_self)
    have hrest : key ∉ rest.map Prod.fst := fun hmem => h (List.mem_cons_of_mem _ hmem)
    rw [setEntry, if_neg hne, ih hrest, List.cons_append]

/-- Values under distinct names are kept as they come. -/
theorem entries_ofList {pairs : List (String × String)} (h : (pairs.map Prod.fst).Nodup) :
    (ofList pairs).entries = pairs := by
  have hfold (pairs : List (String × String)) (data : PathData)
      (h : ((data.entries ++ pairs).map Prod.fst).Nodup) :
      (pairs.foldl (fun data pair => data.insert pair.1 pair.2) data).entries =
        data.entries ++ pairs := by
    induction pairs generalizing data with
    | nil => exact (List.append_nil _).symm
    | cons pair pairs ih =>
      have hnew : pair.1 ∉ data.entries.map Prod.fst := by
        rw [List.map_append] at h
        exact fun hmem => (List.nodup_append.mp h).2.2 _ hmem _ List.mem_cons_self rfl
      have hentries : (data.insert pair.1 pair.2).entries = data.entries ++ [pair] :=
        setEntry_of_new hnew pair.2
      have hshift : data.entries ++ pair :: pairs =
          (data.insert pair.1 pair.2).entries ++ pairs := by
        rw [hentries, List.append_assoc, List.singleton_append]
      rw [List.foldl_cons, hshift, ih _ (hshift ▸ h)]
  exact hfold pairs {} h

/-- What stands at a position is what is found under its name. -/
theorem at?_iff_get? {data : PathData} (h : (data.entries.map Prod.fst).Nodup)
    (name value : String) :
    (∃ position, data.at? position = some (name, value)) ↔ data.get? name = some value := by
  constructor
  · rintro ⟨position, hat⟩
    have hmem : (name, value) ∈ data.entries := List.mem_of_getElem? hat
    cases hfind : data.entries.find? fun entry => entry.1 = name with
    | none =>
      have hne := List.find?_eq_none.mp hfind _ hmem
      exact absurd (decide_eq_true rfl) hne
    | some entry =>
      -- The entry that is found and the one at the position have the same name.
      have hname : entry.1 = name := by simpa using List.find?_some hfind
      have hentry : entry = (name, value) :=
        List.inj_on_of_nodup_map h (List.mem_of_find?_eq_some hfind) hmem hname
      rw [get?, hfind, hentry]
      rfl
  · intro hget
    exact List.mem_iff_getElem?.mp (mem_of_find?_key hget)

end PathData

/-! ## The greatest route that matches -/

variable {η : Type}

/-- Does the route match a relative path? -/
def Route.Matches (route : Route η) (relative : String) : Prop :=
  (route.expression.program.search relative).isSome

theorem Route.parameters?_isSome {route : Route η} {relative : String} :
    (route.parameters? relative).isSome ↔ route.Matches relative := by
  rw [parameters?, Pattern.Expression.captures?, Option.isSome_map, Option.isSome_map, Matches]

namespace RouteTable

/-- **The greatest route that matches** a relative path. -/
structure Best (table : RouteTable η) (relative : String) (route : Route η) : Prop where
  mem : route ∈ table.routes
  fits : route.Matches relative
  greatest : ∀ other ∈ table.routes, other.Matches relative → other = route ∨ route.Precedes other

theorem Best.unique {table : RouteTable η} {relative : String} {route other : Route η}
    (h : table.Best relative route) (hother : table.Best relative other) : other = route := by
  rcases h.greatest other hother.mem hother.fits with heq | hprecedes
  · exact heq
  · rcases hother.greatest route h.mem h.fits with heq | hprecedes'
    · exact heq.symm
    · exact absurd hprecedes' hprecedes.asymm

/-- The search stops at the greatest route that matches. -/
theorem firstMatch?_of_best {table : RouteTable η} (hordered : table.routes.Pairwise Route.Precedes)
    {relative : String} {route : Route η} (h : table.Best relative route) {data : PathData}
    (hdata : route.parameters? relative = some data) :
    table.firstMatch? relative = some (destination route data) := by
  unfold firstMatch?
  obtain ⟨earlier, later, hroutes⟩ := List.append_of_mem h.mem
  refine List.findSome?_eq_some_iff.mpr ⟨earlier, route, later, hroutes, ?_, ?_⟩
  · rw [hdata, Option.map_some]
  · -- A route before it that matched would be less and greater at once.
    intro other hother
    rw [hroutes] at hordered
    have hbefore : other.Precedes route :=
      (List.pairwise_append.mp hordered).2.2 other hother route List.mem_cons_self
    have hno : ¬ other.Matches relative := by
      intro hmatches
      have hmem : other ∈ table.routes := hroutes ▸ List.mem_append_left _ hother
      rcases h.greatest other hmem hmatches with rfl | hafter
      · exact hbefore.asymm hbefore
      · exact hbefore.asymm hafter
    rw [← Route.parameters?_isSome, Option.not_isSome_iff_eq_none] at hno
    rw [hno, Option.map_none]

/-- Where a route matches, there is a greatest one. -/
theorem exists_best {routes : List (Route η)} (hordered : routes.Pairwise Route.Precedes)
    {relative : String} (h : ∃ route ∈ routes, route.Matches relative) :
    ∃ route ∈ routes, route.Matches relative ∧
      ∀ other ∈ routes, other.Matches relative → other = route ∨ route.Precedes other := by
  induction routes with
  | nil =>
    obtain ⟨route, hmem, -⟩ := h
    cases hmem
  | cons first rest ih =>
    obtain ⟨hfirst, hrest⟩ := List.pairwise_cons.mp hordered
    by_cases hmatches : first.Matches relative
    · refine ⟨first, List.mem_cons_self, hmatches, fun other hother _ => ?_⟩
      exact (List.mem_cons.mp hother).imp id (hfirst other)
    · have hsomewhere : ∃ route ∈ rest, route.Matches relative := by
        obtain ⟨route, hmem, hroute⟩ := h
        rcases List.mem_cons.mp hmem with rfl | hmem
        · exact absurd hroute hmatches
        · exact ⟨route, hmem, hroute⟩
      obtain ⟨route, hmem, hroute, hgreatest⟩ := ih hrest hsomewhere
      refine ⟨route, List.mem_cons_of_mem _ hmem, hroute, fun other hother hmatches' => ?_⟩
      rcases List.mem_cons.mp hother with rfl | hother
      · exact absurd hmatches' hmatches
      · exact hgreatest other hother hmatches'

theorem firstMatch?_eq_none {table : RouteTable η} {relative : String}
    (h : ∀ route ∈ table.routes, ¬ route.Matches relative) : table.firstMatch? relative = none := by
  refine List.findSome?_eq_none_iff.mpr fun route hmem => ?_
  have hno := h route hmem
  rw [← Route.parameters?_isSome, Option.not_isSome_iff_eq_none] at hno
  rw [hno, Option.map_none]

/-- The expressions of a table's routes are those of their patterns. -/
theorem Holds.compile?_pattern {table : RouteTable η} {entries : List (Declared η)}
    {options : PathOptions} (h : table.Holds entries options) {route : Route η}
    (hmem : route ∈ table.routes) : Pattern.compile? route.pattern = some route.expression := by
  have hroute : some route ∈ entries.map Declared.route? :=
    h.routes.mem_iff.mp (List.mem_map_of_mem hmem)
  obtain ⟨entry, -, hentry⟩ := List.mem_map.mp hroute
  obtain ⟨expression, hcompile, rfl⟩ := Option.map_eq_some_iff.mp hentry
  exact hcompile

/-- The parameters of a path that a route of a table matches. -/
theorem Holds.parameters? {table : RouteTable η} {entries : List (Declared η)}
    {options : PathOptions} (h : table.Holds entries options) {route : Route η}
    (hmem : route ∈ table.routes) {relative : String} {thread : Pattern.Thread}
    (hthread : route.expression.program.search relative = some thread) :
    ∃ data, route.parameters? relative = some data ∧
      data.entries = route.expression.groups.map
        (fun group => (group.2, (thread.group? relative group.1).getD "")) ∧
      (data.entries.map Prod.fst).Nodup := by
  obtain ⟨-, hnames⟩ := Pattern.groups_of_compile? (h.compile?_pattern hmem)
  set pairs := route.expression.groups.map
    fun group => (group.2, (thread.group? relative group.1).getD "") with hpairs
  have hdistinct : (pairs.map Prod.fst).Nodup := by
    rw [hpairs, List.map_map]
    exact hnames
  have hentries := PathData.entries_ofList hdistinct
  refine ⟨PathData.ofList pairs, ?_, hentries, hentries.symm ▸ hdistinct⟩
  rw [Route.parameters?, Pattern.Expression.captures?, hthread]
  rfl

/-- **A path leads to the greatest route that matches it.** For a path below the application root
this is one route if any matches. Its parameters are the named groups of the pattern in the order of
their numbers, empty where a group took no part, and are found alike by name and by position. Every
other path leads to the fallback, if there is one. -/
theorem resolve_best {builders : List (RoutedBuilder η)} {options : PathOptions}
    {table : RouteTable η} (h : build builders options = .ok table)
    (fallback : Option (String × η)) (path : String) :
    (∀ relative, table.appRelative? path = some relative →
      (∃ route ∈ table.routes, route.Matches relative) →
      ∃ route thread data, (∀ other, table.Best relative other ↔ other = route) ∧
        route.expression.program.search relative = some thread ∧
        resolve { table with fallback := fallback } path =
          some { routeId := route.id, priority := route.priority, pattern := some route.pattern,
                 typeName := route.typeName, handler := route.handler, pathData := data,
                 fallback := false } ∧
        data.entries = route.expression.groups.map
          (fun group => (group.2, (thread.group? relative group.1).getD "")) ∧
        (route.expression.groups.map Prod.fst).Pairwise (· < ·) ∧
        ∀ name value, (∃ position, data.at? position = some (name, value)) ↔
          data.get? name = some value) ∧
    ((∀ relative, table.appRelative? path = some relative →
      ∀ route ∈ table.routes, ¬ route.Matches relative) →
      resolve { table with fallback := fallback } path =
        fallback.map fun (typeName, handler) =>
          { routeId := 0, priority := 0, pattern := none, typeName := typeName, handler := handler,
            pathData := {}, fallback := true }) := by
  obtain ⟨-, hholds⟩ := build_ok h
  have hrelative :
      appRelative? { table with fallback := fallback } path = table.appRelative? path := rfl
  constructor
  · intro relative hpath hsome
    obtain ⟨route, hmem, hmatches, hgreatest⟩ := exists_best hholds.ordered hsome
    have hbest : table.Best relative route := ⟨hmem, hmatches, hgreatest⟩
    obtain ⟨thread, hthread⟩ := Option.isSome_iff_exists.mp hmatches
    obtain ⟨data, hdata, hentries, hnames⟩ := hholds.parameters? hmem hthread
    have hunique (other : Route η) : table.Best relative other ↔ other = route :=
      ⟨hbest.unique, fun heq => heq ▸ hbest⟩
    refine ⟨route, thread, data, hunique, hthread, ?_, hentries,
      (Pattern.groups_of_compile? (hholds.compile?_pattern hmem)).1, PathData.at?_iff_get? hnames⟩
    have hfirst : firstMatch? { table with fallback := fallback } relative =
        some (destination route data) := firstMatch?_of_best hholds.ordered hbest hdata
    rw [resolve, hrelative, hpath, Option.bind_some, hfirst]
    rfl
  · intro hnone
    rw [resolve, hrelative]
    cases hpath : table.appRelative? path with
    | none => rfl
    | some relative =>
      have hfirst : firstMatch? { table with fallback := fallback } relative = none :=
        firstMatch?_eq_none (hnone relative hpath)
      rw [Option.bind_some, hfirst]
      rfl

/-- Two routes of one priority match a path, and the optional group of the greater takes no part. -/
theorem resolve_best_tied :
    let list : RouteDeclaration := ⟨1, "", 5⟩
    let page : RouteDeclaration := ⟨2, "(?-i)(?P<_>x)?", 5⟩
    let docs : RoutedBuilder Nat := ⟨"DocsBuilder", 3, [list, page]⟩
    ∃ table, build [docs] { lowercasePaths := false } = .ok table ∧
      ∃ found, resolve { table with fallback := some ("LostBuilder", 4) } "/" = some found ∧
        found.routeId = 2 ∧ found.fallback = false ∧ found.pathData.entries = [("_", "")] ∧
        found.pathData.get? "_" = some "" := by
  intro list page docs
  let plain : Pattern.Program := ⟨#[.accept], 0⟩
  let optional : Pattern.Program :=
    ⟨#[.accept, .mark 3 0, .one (.single 'x') 1, .mark 2 2, .fork 3 0], 4⟩
  have hplain : Pattern.compile? list.pattern = some ⟨[], plain⟩ := by decide +kernel
  have hoptional : Pattern.compile? page.pattern = some ⟨[(1, "_")], optional⟩ := by decide +kernel
  obtain ⟨table, htable, hholds⟩ := exists_holds docs { lowercasePaths := false }
    (contributedRoutes_of_whole (List.cons_ne_nil list [page]) (by decide +kernel))
    (by decide +kernel) (by
      rintro decl hdecl
      rcases List.mem_pair.mp hdecl with rfl | rfl
      · exact Option.isSome_of_eq_some hplain
      · exact Option.isSome_of_eq_some hoptional)
  let listed : Route Nat :=
    ⟨list.id, list.priority, list.pattern, ⟨[], plain⟩, "DocsBuilder", 3⟩
  let paged : Route Nat :=
    ⟨page.id, page.priority, page.pattern, ⟨[(1, "_")], optional⟩, "DocsBuilder", 3⟩
  have hmem (route : Route Nat) : route ∈ table.routes ↔ route = listed ∨ route = paged := by
    simp [hholds.mem_routes_iff, Declared.route?, hplain, hoptional, listed, paged, docs, eq_comm]
  have hpath : table.appRelative? "/" = some "~/" := by
    rw [appRelative?, hholds.options]
    decide +kernel
  let thread : Pattern.Thread := { place := 0, before := none, rest := ['~', '/'], position := 0 }
  have hsearch : optional.search "~/" = some thread := by
    have hcs : "~/".toList = ['~', '/'] := by decide +kernel
    have hx : (Unicode.CharSet.single 'x').has '~' = false := by decide +kernel
    simp [optional, thread, Pattern.Program.search, hcs, Pattern.Program.starts,
      Pattern.Program.searchSteps, Pattern.Program.explore, Pattern.Instr.step, hx]
  have hfits : paged.Matches "~/" := Option.isSome_of_eq_some hsearch
  have hbest : table.Best "~/" paged := by
    refine ⟨(hmem paged).mpr (.inr rfl), hfits, fun other hother _ => ?_⟩
    rcases (hmem other).mp hother with rfl | rfl
    · exact .inr (.inr ⟨rfl, by decide +kernel⟩)
    · exact .inl rfl
  obtain ⟨route, found, data, hunique, hfound, hresolve, hentries, -, hdata⟩ :=
    (resolve_best htable (some ("LostBuilder", 4)) "/").1 "~/" hpath
      ⟨paged, (hmem paged).mpr (.inr rfl), hfits⟩
  obtain rfl : paged = route := (hunique paged).mp hbest
  obtain rfl : thread = found := Option.some.inj (hsearch.symm.trans hfound)
  have hentries' : data.entries = [("_", "")] := hentries.trans (by decide +kernel)
  refine ⟨table, htable, _, hresolve, rfl, rfl, hentries', (hdata "_" "").mp ⟨0, ?_⟩⟩
  rw [PathData.at?, hentries']
  rfl

end RouteTable

end Folio
