import Folio.Proofs.Route.Building
import Folio.Proofs.Route.Stripping

/-!
# The case of request paths

A table that lower-cases its paths sees one relative path in all paths that are equal up to the case
of the letters A to Z. What follows the root is found in each of them, and the lower-case form of
the rest is the same, also where a sigma stands among the letters. Only then are the routes tried.

* **`Below.caseless`**: what follows the root in a path that is written in another case.
* `RouteTable.appRelative?_caseless`: one relative path.
* **`RouteTable.resolve_caseless`**: one destination.
-/

namespace Folio

variable {root path other rest : String}

/-- **What follows the root in another case** is the rest in another case. -/
theorem Below.caseless (h : Below root path rest) (hequal : asciiEqual path other = true) :
    ∃ left, Below root other left ∧ asciiEqual rest left = true := by
  cases h with
  | @under start rest hroot =>
    obtain ⟨first, last, rfl, hfirst, hlast⟩ := asciiEqual_split hequal
    exact ⟨last, .under (asciiEqual_trans (asciiEqual_symm hfirst) hroot), hlast⟩
  | bare hroot hopen hstart =>
    have hbare := asciiEqual_trans (asciiEqual_symm hequal) hstart
    exact ⟨"", .bare hroot hopen hbare, asciiEqual_self ""⟩

namespace RouteTable

variable {η : Type}

/-- **One relative path** for all paths that are equal up to the case of the letters A to Z. -/
theorem appRelative?_caseless {table : RouteTable η} (hlower : table.options.lowercasePaths = true)
    (hequal : asciiEqual path other = true) :
    table.appRelative? path = table.appRelative? other := by
  rw [appRelative?_eq, appRelative?_eq, hlower]
  cases hrest : belowRoot? table.options.appRoot path with
  | some rest =>
    obtain ⟨left, hleft, hsame⟩ := (belowRoot?_eq_some_iff.mp hrest).caseless hequal
    rw [belowRoot?_eq_some_iff.mpr hleft, Option.map_some, Option.map_some]
    exact congrArg some
      (lowercase_eq_of_asciiEqual (asciiEqual_append (asciiEqual_self "~/") hsame))
  | none =>
    have hnone : belowRoot? table.options.appRoot other = none := by
      rw [belowRoot?_eq_none_iff] at hrest ⊢
      intro left hleft
      obtain ⟨rest, hbelow, -⟩ := hleft.caseless (asciiEqual_symm hequal)
      exact hrest rest hbelow
    rw [hnone]

/-- **The case of a request path does not matter.** Paths that are equal up to the case of the
letters A to Z lead to one place in a table that lower-cases its paths, whatever its root, its
routes and its fallback are: to one route with the same parameters, to the fallback, or nowhere. -/
theorem resolve_caseless (virtualPath : String) {builders : List (RoutedBuilder η)}
    {table : RouteTable η} (h : build builders (PathOptions.ofPath virtualPath true) = .ok table)
    (fallback : Option (String × η)) (hequal : asciiEqual path other = true) :
    let served : RouteTable η := { table with fallback := fallback }
    served.appRelative? path = served.appRelative? other ∧
      served.resolve path = served.resolve other := by
  intro served
  have hlower : served.options.lowercasePaths = true := by
    obtain ⟨-, hholds⟩ := build_ok h
    rw [show served.options = PathOptions.ofPath virtualPath true from hholds.options]
    rfl
  have hrelative := appRelative?_caseless hlower hequal
  refine ⟨hrelative, ?_⟩
  rw [resolve, resolve, hrelative]

/-- A path with a sigma between its letters, and a pattern that asks for the case of some. -/
theorem resolve_caseless_sigma :
    let forum : RoutedBuilder Nat := ⟨"ForumBuilder", 3, [⟨7, "/(?-i:x)", 5⟩]⟩
    asciiEqual "/Shop/Forum/XΣ" "/shop/fORUM/xΣ" = true ∧
    ∃ table, build [forum] (PathOptions.ofPath "/Shop" true) = .ok table ∧
      table.appRelative? "/Shop/Forum/XΣ" = some "~/forum/xς" ∧
      table.appRelative? "/Shop/Forum/XΣ" = table.appRelative? "/shop/fORUM/xΣ" ∧
      table.resolve "/Shop/Forum/XΣ" = table.resolve "/shop/fORUM/xΣ" := by
  intro forum
  have hequal : asciiEqual "/Shop/Forum/XΣ" "/shop/fORUM/xΣ" = true := by decide +kernel
  refine ⟨hequal, ?_⟩
  have hroutes : contributedRoutes forum.typeName forum.declared =
      [⟨7, "^~/forum/(?-i:x)", 5⟩] := by decide +kernel
  obtain ⟨table, htable, hholds⟩ := exists_holds forum (.ofPath "/Shop" true) hroutes
    (List.nodup_singleton _) (List.forall_mem_singleton.mpr (by decide +kernel))
  obtain ⟨hrelative, hresolve⟩ := resolve_caseless "/Shop" htable table.fallback hequal
  refine ⟨table, htable, ?_, hrelative, hresolve⟩
  rw [appRelative?_eq, hholds.options]
  decide +kernel

end RouteTable

end Folio
