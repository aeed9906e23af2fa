import Folio.Proofs.Pattern.Compiling
import Folio.Proofs.Route.Confinement
import Folio.Proofs.Text.Casing

/-!
# Routes of builders that declare none

A builder that declares no routes has one: the home builder serves the root, and every other one the
path of its stem, with a slash at the end or without. The pattern is put together as text, but
nothing in a name is an operator, so it matches these paths and no others.

* **`HasStem`**, `hasStem_iff`: the stem of a name, and that it is what the router takes for it.
* `IsName`: names of types; their stems are plain texts without slashes.
* **`Serves`**, **`serves_of_search`**: the paths that a default route matches.
* `compile?_default`: default routes compile.
* `build_again`: a pattern that has been declared before.
* **`RouteTable.default_routes_exact`**: default routes in a table.
-/

namespace Folio

open Pattern (IsPlain)
open Unicode (foldCase)

/-! ## Stems -/

/-- **The stem of a name**: the name in lower case, without one ending `Builder` in any case. -/
def HasStem (name stem : String) : Prop :=
  (∃ base ending, name = base ++ ending ∧ asciiEqual ending "Builder" = true ∧
      stem = lowercase base) ∨
    (∀ base ending, name = base ++ ending → asciiEqual ending "Builder" = false) ∧
      stem = lowercase name

/-- The ending is found by its number of bytes. -/
theorem dropEnding_append {base ending : String} (h : asciiEqual ending "Builder" = true) :
    dropEnding (base ++ ending) = base := by
  have hsize : ending.utf8ByteSize = builderEnding.utf8ByteSize := asciiEqual_utf8ByteSize h
  have hcut : (base ++ ending).utf8ByteSize - builderEnding.utf8ByteSize = base.utf8ByteSize := by
    rw [String.utf8ByteSize_append]
    omega
  have hlong : ¬ (base ++ ending).utf8ByteSize < builderEnding.utf8ByteSize := by
    rw [String.utf8ByteSize_append]
    omega
  rw [dropEnding, if_neg hlong, hcut, Utf8.splitText?_eq_some_iff.mpr ⟨rfl, rfl⟩]
  dsimp only
  rw [show asciiEqual ending builderEnding = true from h, if_pos rfl]

theorem dropEnding_of_none {name : String}
    (h : ∀ base ending, name = base ++ ending → asciiEqual ending "Builder" = false) :
    dropEnding name = name := by
  unfold dropEnding
  split
  · rfl
  · split
    · next base ending hsplit =>
      obtain ⟨hname, -⟩ := Utf8.splitText?_eq_some_iff.mp hsplit
      rw [show asciiEqual ending builderEnding = false from h base ending hname]
      rfl
    · rfl

/-- **The router finds the stem.** -/
theorem hasStem_iff {name stem : String} : HasStem name stem ↔ stem = stemOf name := by
  constructor
  · rintro (⟨base, ending, rfl, hending, rfl⟩ | ⟨hnone, rfl⟩)
    · rw [stemOf, dropEnding_append hending]
    · rw [stemOf, dropEnding_of_none hnone]
  · rintro rfl
    by_cases hends : ∃ base ending, name = base ++ ending ∧ asciiEqual ending "Builder" = true
    · obtain ⟨base, ending, rfl, hending⟩ := hends
      exact .inl ⟨base, ending, rfl, hending, by rw [stemOf, dropEnding_append hending]⟩
    · have hnone : ∀ base ending, name = base ++ ending →
          asciiEqual ending "Builder" = false := by
        intro base ending hname
        rw [Bool.eq_false_iff]
        exact fun hending => hends ⟨base, ending, hname, hending⟩
      exact .inr ⟨hnone, by rw [stemOf, dropEnding_of_none hnone]⟩

/-! ## Names -/

/-- A letter or a digit, an underscore, or a character beyond ASCII. -/
def IsNameChar (c : Char) : Prop :=
  c.isAlphanum = true ∨ c = '_' ∨ 0x80 ≤ c.toNat

instance (c : Char) : Decidable (IsNameChar c) :=
  inferInstanceAs (Decidable (_ ∨ _ ∨ _))

/-- **Names of types.** All identifiers are made up of such characters. -/
def IsName (name : String) : Prop :=
  ∀ c ∈ name.toList, IsNameChar c

instance (name : String) : Decidable (IsName name) :=
  List.decidableBAll IsNameChar name.toList

theorem isName_lowercase {name : String} (h : IsName name) : IsName (lowercase name) := by
  intro c hmem
  rcases mem_lowercase hmem with hmem | hlower | hbeyond
  · exact h c hmem
  · left
    rw [Char.isAlphanum, Char.isAlpha, hlower, Bool.or_true, Bool.true_or]
  · exact .inr (.inr hbeyond)

/-- What is kept of a name is its beginning. -/
theorem exists_dropEnding_append (name : String) : ∃ rest, name = dropEnding name ++ rest := by
  unfold dropEnding
  split
  · exact ⟨"", String.append_empty.symm⟩
  · split
    · next base ending hsplit =>
      split
      · exact ⟨ending, (Utf8.splitText?_eq_some_iff.mp hsplit).1⟩
      · exact ⟨"", String.append_empty.symm⟩
    · exact ⟨"", String.append_empty.symm⟩

theorem isName_stemOf {name : String} (h : IsName name) : IsName (stemOf name) := by
  obtain ⟨rest, hname⟩ := exists_dropEnding_append name
  refine isName_lowercase fun c hmem => h c ?_
  rw [hname, String.toList_append]
  exact List.mem_append_left _ hmem

theorem length_stemOf_le (name : String) : (stemOf name).length ≤ 2 * name.length := by
  obtain ⟨rest, hname⟩ := exists_dropEnding_append name
  have hlower := length_lowercase_le (dropEnding name)
  have hlength := congrArg String.length hname
  rw [String.length_append] at hlength
  rw [stemOf]
  omega

/-- Nothing in a name is an operator. -/
theorem IsName.plain {name : String} (h : IsName name) : IsPlain name.toList := by
  have hoperators : (['\\', '.', '+', '*', '?', '(', ')', '|', '[', '{', '^', '$'].all
      fun c => ¬ IsNameChar c) = true := by decide
  intro c hmem
  rw [Pattern.isOperator, Bool.eq_false_iff]
  intro hoperator
  have hother := List.all_eq_true.mp hoperators c (List.contains_iff_mem.mp hoperator)
  exact of_decide_eq_true hother (h c hmem)

/-- No character but the slash folds to it. -/
theorem not_mem_folded_slash {text : String} (h : IsName text) :
    '/' ∉ text.toList.map foldCase := by
  intro hmem
  obtain ⟨c, hc, hfold⟩ := List.mem_map.mp hmem
  have hslash : foldCase c = foldCase '/' := hfold.trans (by decide +kernel)
  have hvariants : Unicode.caseVariants '/' = ['/'] := by decide +kernel
  have hself := Unicode.mem_caseVariants_iff.mpr hslash
  rw [hvariants, List.mem_singleton] at hself
  have hname := h c hc
  rw [hself] at hname
  exact absurd hname (by decide)

/-! ## What default routes match -/

/-- Equal up to simple case folding. -/
def SameFolded (a b : String) : Prop :=
  a.toList.map foldCase = b.toList.map foldCase

instance (a b : String) : Decidable (SameFolded a b) :=
  inferInstanceAs (Decidable (_ = _))

/-- **The paths that the default route of a name is for**, up to case. -/
def Serves (name relative : String) : Prop :=
  if asciiEqual name "HomeBuilder" = true then SameFolded relative "~/"
  else ∃ stem, HasStem name stem ∧
    (SameFolded relative ("~/" ++ stem) ∨ SameFolded relative ("~/" ++ stem ++ "/"))

theorem toList_homePattern : "^~/$".toList = '^' :: ("~/".toList ++ ['$']) := by
  decide +kernel

theorem toList_stemPattern (stem : String) :
    ("^~/" ++ stem ++ "/?$").toList = '^' :: (("~/" ++ stem).toList ++ ['/', '?', '$']) := by
  simp [String.toList_append]

theorem pattern_defaultRoute_home {name : String} (h : asciiEqual name "HomeBuilder" = true) :
    (defaultRoute name).pattern = "^~/$" := by
  rw [defaultRoute, if_pos (show asciiEqual name homeName = true from h)]

theorem pattern_defaultRoute_stem {name : String} (h : asciiEqual name "HomeBuilder" = false) :
    (defaultRoute name).pattern = "^~/" ++ stemOf name ++ "/?$" := by
  have hother : ¬ asciiEqual name homeName = true := Bool.eq_false_iff.mp h
  rw [defaultRoute, if_neg hother]

/-- **A default route matches the paths that it is for.** -/
theorem serves_of_search {name : String} (hname : IsName name) {expression : Pattern.Expression}
    (hcompile : Pattern.compile? (defaultRoute name).pattern = some expression)
    (relative : String) : (expression.program.search relative).isSome ↔ Serves name relative := by
  unfold Serves
  by_cases hhome : asciiEqual name "HomeBuilder" = true
  · rw [pattern_defaultRoute_home hhome] at hcompile
    rw [if_pos hhome, Pattern.search_closed toList_homePattern (by decide +kernel) hcompile]
    exact eq_comm
  · have hplain : IsPlain ("~/" ++ stemOf name).toList := isPlain_under (isName_stemOf hname).plain
    rw [pattern_defaultRoute_stem (Bool.eq_false_iff.mpr hhome)] at hcompile
    rw [if_neg hhome, Pattern.search_optional (toList_stemPattern _) hplain (by decide) hcompile]
    simp only [hasStem_iff, exists_eq_left, SameFolded, String.toList_append (t := "/")]
    exact or_congr eq_comm eq_comm

/-- **Default routes compile**, unless a name is longer than any is written. -/
theorem compile?_default {name : String} (hname : IsName name) (hlength : name.length ≤ 4096) :
    (Pattern.compile? (defaultRoute name).pattern).isSome := by
  by_cases hhome : asciiEqual name "HomeBuilder" = true
  · rw [pattern_defaultRoute_home hhome]
    exact Pattern.compile?_closed toList_homePattern (by decide +kernel) (by decide +kernel)
  · rw [pattern_defaultRoute_stem (Bool.eq_false_iff.mpr hhome)]
    refine Pattern.compile?_optional (toList_stemPattern _)
      (isPlain_under (isName_stemOf hname).plain) (by decide) ?_
    have hstem := length_stemOf_le name
    have hroot : "~/".length = 2 := by decide +kernel
    rw [String.length_toList, String.length_append, hroot]
    omega

/-- A path of a stem, with a slash at the end or without, tells the stem up to case. -/
theorem sameFolded_of_paths {stem other relative : String} (hstem : IsName stem)
    (hother : IsName other)
    (h : SameFolded relative ("~/" ++ stem) ∨ SameFolded relative ("~/" ++ stem ++ "/"))
    (h' : SameFolded relative ("~/" ++ other) ∨ SameFolded relative ("~/" ++ other ++ "/")) :
    SameFolded stem other := by
  have hslash : "/".toList.map foldCase = ['/'] := by decide +kernel
  simp only [SameFolded, String.toList_append, List.map_append, hslash, List.append_assoc] at *
  have hnone := not_mem_folded_slash hstem
  have hnone' := not_mem_folded_slash hother
  rcases h with h | h
  · rcases h' with h' | h'
    · exact List.append_cancel_left (h.symm.trans h')
    · have hends := List.append_cancel_left (h.symm.trans h')
      rw [hends] at hnone
      exact absurd (List.mem_append_right _ (List.mem_singleton_self '/')) hnone
  · rcases h' with h' | h'
    · have hends := List.append_cancel_left (h'.symm.trans h)
      rw [hends] at hnone'
      exact absurd (List.mem_append_right _ (List.mem_singleton_self '/')) hnone'
    · exact List.append_cancel_right (List.append_cancel_left (h.symm.trans h'))

/-- Names of different stems have no path in common. -/
theorem not_serves_of_stems {name other stem otherStem relative : String} (hname : IsName name)
    (hother : IsName other) (hhome : asciiEqual name "HomeBuilder" = false)
    (hotherHome : asciiEqual other "HomeBuilder" = false) (hstem : HasStem name stem)
    (hotherStem : HasStem other otherStem) (hdiffer : ¬ SameFolded stem otherStem) :
    ¬ (Serves name relative ∧ Serves other relative) := by
  obtain rfl := hasStem_iff.mp hstem
  obtain rfl := hasStem_iff.mp hotherStem
  rintro ⟨hserves, hserves'⟩
  rw [Serves, if_neg (Bool.eq_false_iff.mp hhome)] at hserves
  rw [Serves, if_neg (Bool.eq_false_iff.mp hotherHome)] at hserves'
  obtain ⟨_, hstem, hpaths⟩ := hserves
  obtain ⟨_, hotherStem, hpaths'⟩ := hserves'
  obtain rfl := hasStem_iff.mp hstem
  obtain rfl := hasStem_iff.mp hotherStem
  exact hdiffer (sameFolded_of_paths (isName_stemOf hname) (isName_stemOf hother) hpaths hpaths')

/-! ## Patterns that are declared again -/

namespace RouteTable

variable {η : Type}

open Declared

theorem compileAll_append (seen : List String) (entries others : List (Declared η)) :
    compileAll seen (entries ++ others) = (compileAll seen entries).bind fun routes =>
      (compileAll ((patterns entries).reverse ++ seen) others).map (routes ++ ·) := by
  induction entries generalizing seen with
  | nil =>
    change _ = (compileAll seen others).map ([] ++ ·)
    cases hothers : compileAll seen others <;> rw [List.nil_append, hothers] <;> rfl
  | cons entry rest ih =>
    obtain ⟨builder, decl⟩ := entry
    have hseen : (patterns ((builder, decl) :: rest)).reverse ++ seen =
        (patterns rest).reverse ++ decl.pattern :: seen := by
      simp [patterns]
    rw [List.cons_append, compileAll, compileAll, ih, hseen]
    cases compile builder.typeName builder.handler seen decl with
    | error e => rfl
    | ok route =>
      dsimp only
      cases compileAll (decl.pattern :: seen) rest with
      | error e => rfl
      | ok routes =>
        change (Except.map (route :: ·) (Except.map (routes ++ ·) _)) = Except.map _ _
        cases compileAll ((patterns rest).reverse ++ decl.pattern :: seen) others <;> rfl

/-- **A pattern that has been declared before** ends the building, if what comes before it can be
built. -/
theorem build_again {front later : List (RoutedBuilder η)} {builder : RoutedBuilder η}
    {decl : RouteDeclaration} {more : List RouteDeclaration} (options : PathOptions)
    (hroutes : contributedRoutes builder.typeName builder.declared = decl :: more)
    (hseen : decl.pattern ∈ patterns (expanded front)) :
    build (front ++ builder :: later) options = (build front options).bind fun _ =>
      .error (.duplicatePattern builder.typeName decl.pattern) := by
  have hexpanded : expanded (front ++ builder :: later) = expanded front ++
      (builder, decl) :: (more.map (fun decl => (builder, decl)) ++ expanded later) := by
    rw [expanded, List.flatMap_append, List.flatMap_cons, hroutes]
    rfl
  have hcontains : ((patterns (expanded front)).reverse ++ []).contains decl.pattern = true := by
    rw [List.contains_iff_mem, List.append_nil, List.mem_reverse]
    exact hseen
  rw [build, build, hexpanded, compileAll_append]
  cases compileAll [] (expanded front) with
  | error e => rfl
  | ok routes =>
    change Except.map _ (Except.map _ (compileAll _ ((builder, decl) :: _))) = _
    rw [compileAll, compile, if_pos hcontains]
    rfl

/-! ## Default routes in a table -/

/-- The entry of a builder that declares no routes. -/
theorem mem_expanded_default {builders : List (RoutedBuilder η)} {builder : RoutedBuilder η}
    (hbuilder : builder ∈ builders) (hnone : builder.declared = []) :
    (builder, defaultRoute builder.typeName) ∈ expanded builders := by
  refine mem_expanded_iff.mpr ⟨hbuilder, ?_⟩
  rw [hnone]
  exact List.mem_singleton_self _

/-- There is a table of a builder that declares no routes. -/
theorem exists_default {builder : RoutedBuilder η} (hnone : builder.declared = [])
    (hname : IsName builder.typeName) (hlength : builder.typeName.length ≤ 4096)
    (options : PathOptions) : ∃ table, build [builder] options = .ok table := by
  have hroutes : contributedRoutes builder.typeName builder.declared =
      [defaultRoute builder.typeName] := by
    rw [hnone]
    rfl
  obtain ⟨table, htable, -⟩ := exists_holds builder options hroutes (List.nodup_singleton _)
    (List.forall_mem_singleton.mpr (compile?_default hname hlength))
  exact ⟨table, htable⟩

/-- Two default routes of one stem have one pattern. -/
theorem build_same_stem (earlier between later : List (RoutedBuilder η)) {a b : RoutedBuilder η}
    {stem : String} (options : PathOptions) (ha : a.declared = []) (hb : b.declared = [])
    (hhome : asciiEqual a.typeName "HomeBuilder" = false)
    (hhome' : asciiEqual b.typeName "HomeBuilder" = false) (hstem : HasStem a.typeName stem)
    (hstem' : HasStem b.typeName stem) :
    build (earlier ++ a :: (between ++ b :: later)) options =
      (build (earlier ++ a :: between) options).bind fun _ =>
        .error (.duplicatePattern b.typeName ("^~/" ++ stem ++ "/?$")) := by
  have hpattern : (defaultRoute b.typeName).pattern = "^~/" ++ stem ++ "/?$" := by
    rw [pattern_defaultRoute_stem hhome', ← hasStem_iff.mp hstem']
  have hseen :
      (defaultRoute b.typeName).pattern ∈ patterns (expanded (earlier ++ a :: between)) := by
    have hsame : (defaultRoute b.typeName).pattern = (defaultRoute a.typeName).pattern := by
      rw [hpattern, pattern_defaultRoute_stem hhome, ← hasStem_iff.mp hstem]
    rw [hsame]
    exact List.mem_map_of_mem
      (mem_expanded_default (List.mem_append_right _ List.mem_cons_self) ha)
  have hroutes : contributedRoutes b.typeName b.declared = [defaultRoute b.typeName] := by
    rw [hb]
    rfl
  rw [← hpattern, ← List.cons_append, ← List.append_assoc]
  exact build_again options hroutes hseen

/-- **Default routes serve exactly their stem.** In a table that has been built, a builder that
declares no routes has a route for the paths of its stem, the home builder one for the root, and
such a route always compiles unless the name is longer than 4096 characters. Of two builders with
one stem, neither of them the home builder, the second is refused for its pattern as soon as what
comes before it has been built; so nothing is ever built of both. Routes of different stems match no
path in common. -/
theorem default_routes_exact (builders : List (RoutedBuilder η)) (options : PathOptions) :
    (∀ table, build builders options = .ok table → ∀ builder ∈ builders, builder.declared = [] →
      IsName builder.typeName →
      ∃ route ∈ table.routes, route.pattern = (defaultRoute builder.typeName).pattern ∧
        route.typeName = builder.typeName ∧ route.handler = builder.handler ∧
        ∀ relative, route.Matches relative ↔ Serves builder.typeName relative) ∧
    (∀ name : String, IsName name → name.length ≤ 4096 →
      (Pattern.compile? (defaultRoute name).pattern).isSome) ∧
    (∀ (earlier between later : List (RoutedBuilder η)) (a b : RoutedBuilder η) (stem : String),
      builders = earlier ++ a :: (between ++ b :: later) → a.declared = [] → b.declared = [] →
      asciiEqual a.typeName "HomeBuilder" = false → asciiEqual b.typeName "HomeBuilder" = false →
      HasStem a.typeName stem → HasStem b.typeName stem →
      build builders options = (build (earlier ++ a :: between) options).bind fun _ =>
        .error (.duplicatePattern b.typeName ("^~/" ++ stem ++ "/?$"))) ∧
    (∀ (a b : RoutedBuilder η) (later : List (RoutedBuilder η)) (stem : String),
      builders = a :: b :: later → a.declared = [] → b.declared = [] →
      IsName a.typeName → a.typeName.length ≤ 4096 →
      asciiEqual a.typeName "HomeBuilder" = false → asciiEqual b.typeName "HomeBuilder" = false →
      HasStem a.typeName stem → HasStem b.typeName stem →
      build builders options = .error (.duplicatePattern b.typeName ("^~/" ++ stem ++ "/?$"))) ∧
    (∀ name other stem otherStem : String, IsName name → IsName other →
      asciiEqual name "HomeBuilder" = false → asciiEqual other "HomeBuilder" = false →
      HasStem name stem → HasStem other otherStem → ¬ SameFolded stem otherStem →
      ∀ relative, ¬ (Serves name relative ∧ Serves other relative)) := by
  refine ⟨?_, fun name => compile?_default, ?_, ?_, ?_⟩
  · intro table htable builder hbuilder hnone hname
    obtain ⟨hsound, hholds⟩ := build_ok htable
    have hentry := mem_expanded_default hbuilder hnone
    obtain ⟨expression, hcompile⟩ := Option.isSome_iff_exists.mp
      (hsound.compiled _ (List.mem_map_of_mem hentry))
    refine ⟨_, hholds.mem_routes_iff.mpr ⟨_, hentry, congrArg (Option.map _) hcompile⟩, rfl, rfl,
      rfl, fun relative => ?_⟩
    exact serves_of_search hname hcompile relative
  · rintro earlier between later a b stem rfl ha hb hhome hhome' hstem hstem'
    exact build_same_stem earlier between later options ha hb hhome hhome' hstem hstem'
  · rintro a b later stem rfl ha hb hname hlength hhome hhome' hstem hstem'
    obtain ⟨table, htable⟩ := exists_default ha hname hlength options
    have hbuild := build_same_stem [] [] later options ha hb hhome hhome' hstem hstem'
    rw [List.nil_append, List.nil_append, List.nil_append, htable] at hbuild
    exact hbuild
  · intro name other stem otherStem hname hother hhome hhome' hstem hstem' hdiffer relative
    exact not_serves_of_stems hname hother hhome hhome' hstem hstem' hdiffer

/-- A builder of a stem with a sharp s, and another one of this stem. -/
theorem default_routes_exact_street :
    let street : RoutedBuilder Nat := ⟨"StraßeBuilder", 3, []⟩
    let again : RoutedBuilder Nat := ⟨"STRAßEbuilder", 4, []⟩
    (∃ table, build [street] {} = .ok table ∧
      ∃ route ∈ table.routes, route.handler = 3 ∧ route.Matches "~/STRAẞE/" ∧
        ¬ route.Matches "~/strasse/") ∧
    build [street, again] {} = .error (.duplicatePattern "STRAßEbuilder" "^~/straße/?$") := by
  intro street again
  have hname : IsName "StraßeBuilder" := by decide +kernel
  have hlength : "StraßeBuilder".length ≤ 4096 := by decide +kernel
  have hhome : asciiEqual "StraßeBuilder" "HomeBuilder" = false := by decide +kernel
  have hhome' : asciiEqual "STRAßEbuilder" "HomeBuilder" = false := by decide +kernel
  have hstem : HasStem "StraßeBuilder" "straße" := hasStem_iff.mpr (by decide +kernel)
  have hstem' : HasStem "STRAßEbuilder" "straße" := hasStem_iff.mpr (by decide +kernel)
  obtain ⟨hroutes, -, -, -, -⟩ := default_routes_exact [street] {}
  obtain ⟨-, -, -, hagain, -⟩ := default_routes_exact [street, again] {}
  constructor
  · obtain ⟨table, htable⟩ : ∃ table, build [street] {} = .ok table :=
      exists_default rfl hname hlength {}
    obtain ⟨route, hmem, -, -, hhandler, hmatches⟩ :=
      hroutes table htable street List.mem_cons_self rfl hname
    refine ⟨table, htable, route, hmem, hhandler, ?_, ?_⟩
    · rw [hmatches, Serves, if_neg (Bool.eq_false_iff.mp hhome)]
      exact ⟨_, hstem, .inr (by decide +kernel)⟩
    · rw [hmatches, Serves, if_neg (Bool.eq_false_iff.mp hhome)]
      rintro ⟨stem, hother, hpaths⟩
      rw [hasStem_iff.mp hother, ← hasStem_iff.mp hstem] at hpaths
      revert hpaths
      decide +kernel
  · exact hagain street again [] "straße" rfl rfl rfl hname hlength hhome hhome' hstem hstem'

end RouteTable

end Folio
