import Folio.Proofs.Route.Resolution
import Folio.Proofs.Route.Stripping
import Folio.Settings.Basic

/-!
# Links lead back

A rooted tag is written as a path below the application root. The router takes the same root off
again, so the link leads where the rest of the tag leads as a relative path.

* `RouteTable.LeadsTo`: where a relative path leads in a table.
* **`RouteTable.resolve_link`**: where the link of a rooted tag leads.
-/

namespace Folio

namespace RouteTable

/-! ## Relative paths -/

variable {η : Type}

/-- **Where a relative path leads**: to the greatest route that matches it, with the parameters of
its match, and where none does to the fallback. -/
def LeadsTo (table : RouteTable η) (relative : String) (found : Option (Destination η)) : Prop :=
  (∃ route data, table.Best relative route ∧ route.parameters? relative = some data ∧
      found = some (destination route data)) ∨
    (∀ route ∈ table.routes, ¬ route.Matches relative) ∧ found = table.fallbackMatch?

theorem resolve_leadsTo {table : RouteTable η} (hordered : table.routes.Pairwise Route.Precedes)
    {path relative : String} (hpath : table.appRelative? path = some relative) :
    table.LeadsTo relative (table.resolve path) := by
  by_cases hsome : ∃ route ∈ table.routes, route.Matches relative
  · obtain ⟨route, hmem, hmatches, hgreatest⟩ := exists_best hordered hsome
    have hbest : table.Best relative route := ⟨hmem, hmatches, hgreatest⟩
    obtain ⟨data, hdata⟩ := Option.isSome_iff_exists.mp (Route.parameters?_isSome.mpr hmatches)
    refine .inl ⟨route, data, hbest, hdata, ?_⟩
    rw [resolve, hpath, Option.bind_some, firstMatch?_of_best hordered hbest hdata]
  · have hnone : ∀ route ∈ table.routes, ¬ route.Matches relative := fun route hmem hmatches =>
      hsome ⟨route, hmem, hmatches⟩
    refine .inr ⟨hnone, ?_⟩
    rw [resolve, hpath, Option.bind_some, firstMatch?_eq_none hnone]

/-- **A link leads back.** Where the name of a tag is the rooted prefix with a rest, its template is
scanned to one literal, the link. A table at the same virtual path sees the link as the rest below
`~/`, and it leads where that relative path leads. A virtual path that begins with a slash and does
not end in one stands for the root, with a slash after it and without. -/
theorem resolve_link (scanner : ScannerSettings) (virtualPath : String)
    (stripLineBreaks lowercasePaths : Bool) {builders : List (RoutedBuilder η)}
    {table : RouteTable η}
    (h : build builders (PathOptions.ofPath virtualPath lowercasePaths) = .ok table)
    (fallback : Option (String × η)) :
    let options := scanner.options virtualPath stripLineBreaks
    let served : RouteTable η := { table with fallback := fallback }
    (∀ text raw rest : String,
      options.visible text.toList = options.delimiter :: (raw.toList ++ [options.delimiter]) →
      options.InTag raw.toList → raw ≠ "" → trim raw = scanner.rootedPrefix ++ rest →
      ∃ link, scanText options taking text [] = (.ok (), [.literal link]) ∧
        served.appRelative? link = some (asked lowercasePaths ("~/" ++ rest)) ∧
        served.LeadsTo (asked lowercasePaths ("~/" ++ rest)) (served.resolve link)) ∧
    (virtualPath.toList.head? = some '/' → virtualPath.toList.getLast? ≠ some '/' →
      served.appRelative? virtualPath = some "~/" ∧
        served.appRelative? (virtualPath ++ "/") = some "~/") := by
  intro options served
  obtain ⟨-, hholds⟩ := build_ok h
  have hordered : served.routes.Pairwise Route.Precedes := hholds.ordered
  have hrelative (path : String) : served.appRelative? path =
      (belowRoot? (appRootAt virtualPath) path).map fun rest =>
        asked lowercasePaths ("~/" ++ rest) := by
    rw [appRelative?, show served.options = PathOptions.ofPath virtualPath lowercasePaths from
      hholds.options]
    rfl
  refine ⟨fun text raw rest htext hraw hne hname => ?_, fun hstart hopen => ?_⟩
  · have hlink : served.appRelative? (appRootAt virtualPath ++ rest) =
        some (asked lowercasePaths ("~/" ++ rest)) := by
      rw [hrelative, belowRoot?_eq_some_iff.mpr (.self _ rest), Option.map_some]
    refine ⟨appRootAt virtualPath ++ rest, ?_, hlink, resolve_leadsTo hordered hlink⟩
    have hevents := eventsOf_rooted htext hraw (by simpa using hne)
      (by rwa [String.ofList_toList])
    rw [scanText_taking, hevents, literalRun, if_neg]
    · rfl
    · rw [String.isEmpty_iff, String.append_eq_empty_iff]
      exact fun hempty => appRootAt_ne_empty virtualPath hempty.1
  · have hroot := appRootAt_of_open hstart hopen
    have hall : asked lowercasePaths ("~/" ++ "") = "~/" := by
      cases lowercasePaths <;> decide +kernel
    constructor
    · have hbare : Below (virtualPath ++ "/") virtualPath "" :=
        .bare (n := 1) rfl hopen (asciiEqual_self virtualPath)
      rw [hrelative, hroot, belowRoot?_eq_some_iff.mpr hbare, Option.map_some, hall]
    · have hself := Below.self (virtualPath ++ "/") ""
      rw [String.append_empty] at hself
      rw [hrelative, hroot, belowRoot?_eq_some_iff.mpr hself, Option.map_some, hall]

/-- A tag with a blank before its name and a line break in it, below a root with a letter beyond
ASCII. -/
theorem resolve_link_shop :
    let options := ({} : ScannerSettings).options "/Läden/Shop" true
    let blog : RoutedBuilder Nat := ⟨"BlogBuilder", 3, [⟨7, "/", 5⟩]⟩
    (options.visible "@\t~/Bl\nog@".toList =
        options.delimiter :: ("\t~/Blog".toList ++ [options.delimiter]) ∧
      options.InTag "\t~/Blog".toList ∧ "\t~/Blog" ≠ "" ∧ trim "\t~/Blog" = "~/" ++ "Blog") ∧
    ∃ table, build [blog] (PathOptions.ofPath "/Läden/Shop" true) = .ok table ∧
      (∃ link, scanText options taking "@\t~/Bl\nog@" [] = (.ok (), [.literal link]) ∧
        table.appRelative? link = some "~/blog" ∧ table.LeadsTo "~/blog" (table.resolve link)) ∧
      table.appRelative? "/Läden/Shop" = some "~/" ∧
      table.appRelative? ("/Läden/Shop" ++ "/") = some "~/" := by
  intro options blog
  refine ⟨by decide +kernel, ?_⟩
  have hroutes : contributedRoutes blog.typeName blog.declared = [⟨7, "^~/blog/", 5⟩] := by
    decide +kernel
  obtain ⟨table, htable, -⟩ := exists_holds blog (.ofPath "/Läden/Shop" true) hroutes
    (List.nodup_singleton _) (List.forall_mem_singleton.mpr (by decide +kernel))
  obtain ⟨hlinks, hroot⟩ := resolve_link {} "/Läden/Shop" true true htable table.fallback
  have hlink := hlinks "@\t~/Bl\nog@" "\t~/Blog" "Blog" (by decide +kernel) (by decide +kernel)
    (by decide +kernel) (by decide +kernel)
  rw [show asked true ("~/" ++ "Blog") = "~/blog" by decide +kernel] at hlink
  exact ⟨table, htable, hlink, hroot (by decide +kernel) (by decide +kernel)⟩

end RouteTable

end Folio
