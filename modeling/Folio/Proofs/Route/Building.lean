import Mathlib.Data.List.Perm.Basic
import Mathlib.Data.String.Basic
import Folio.Route.Table

/-!
# How the route table is built

The table holds one route for every expanded declaration, the greatest first. Two routes never have
one pattern, so this order is strict and leaves nothing to the order of the declarations.

* `Declared.Sound`: declarations that can stand in one table: no pattern twice, and all compile.
* **`Declared.Fault`**: what is wrong with the first declaration that cannot.
* **`Route.Precedes`**: the order of the table.
* `Rearranged`: the same builders and declarations in another order.
* **`RouteTable.Holds`**: a table holds the routes of declarations, in order;
  `RouteTable.exists_holds`: one of a single builder.
* **`RouteTable.build_spec`**: what building gives, and that it does not depend on the order.
-/

namespace Folio

variable {η : Type}

/-! ## Declarations -/

/-- An expanded declaration, with its builder. -/
abbrev Declared (η : Type) := RoutedBuilder η × RouteDeclaration

namespace Declared

/-- The patterns of declarations. -/
def patterns (entries : List (Declared η)) : List String :=
  entries.map fun entry => entry.2.pattern

/-- The route of a declaration, if its pattern compiles. -/
def route? (entry : Declared η) : Option (Route η) :=
  (Pattern.compile? entry.2.pattern).map fun expression =>
    { id := entry.2.id, priority := entry.2.priority, pattern := entry.2.pattern,
      expression := expression, typeName := entry.1.typeName, handler := entry.1.handler }

/-- **Declarations that can stand in one table.** -/
structure Sound (entries : List (Declared η)) : Prop where
  distinct : (patterns entries).Nodup
  compiled : ∀ pattern ∈ patterns entries, (Pattern.compile? pattern).isSome

/-- **What is wrong with a declaration** after the given patterns. -/
inductive Fault (entry : Declared η) (seen : List String) : ConfigurationError → Prop
  | duplicate (h : entry.2.pattern ∈ seen) :
    Fault entry seen (.duplicatePattern entry.1.typeName entry.2.pattern)
  | invalid (hnew : entry.2.pattern ∉ seen) (h : Pattern.compile? entry.2.pattern = none) :
    Fault entry seen (.invalidPattern entry.1.typeName entry.2.pattern)

theorem Fault.congr {entry : Declared η} {seen other : List String} {error : ConfigurationError}
    (h : entry.Fault seen error) (hsame : entry.2.pattern ∈ seen ↔ entry.2.pattern ∈ other) :
    entry.Fault other error := by
  cases h with
  | duplicate h => exact .duplicate (hsame.mp h)
  | invalid hnew h => exact .invalid (fun hmem => hnew (hsame.mpr hmem)) h

theorem Sound.nil : Sound ([] : List (Declared η)) :=
  ⟨List.nodup_nil, List.forall_mem_nil _⟩

theorem Sound.cons {entry : Declared η} {rest : List (Declared η)} {route : Route η}
    (hroute : entry.route? = some route) (hnew : entry.2.pattern ∉ patterns rest)
    (h : Sound rest) : Sound (entry :: rest) := by
  obtain ⟨expression, hexpression, -⟩ := Option.map_eq_some_iff.mp hroute
  exact ⟨List.nodup_cons.mpr ⟨hnew, h.distinct⟩,
    List.forall_mem_cons.mpr ⟨Option.isSome_of_eq_some hexpression, h.compiled⟩⟩

/-- With a faulty declaration, declarations are not sound. -/
theorem Fault.not_sound {entry : Declared η} {earlier later : List (Declared η)}
    {error : ConfigurationError} (h : entry.Fault (patterns earlier) error) :
    ¬ Sound (earlier ++ entry :: later) := by
  rintro ⟨hdistinct, hcompiled⟩
  simp only [patterns, List.map_append, List.map_cons] at hdistinct hcompiled
  cases h with
  | duplicate h =>
    exact (List.nodup_append.mp hdistinct).2.2 _ h _ List.mem_cons_self rfl
  | invalid hnew h =>
    have hentry := hcompiled entry.2.pattern (List.mem_append_right _ List.mem_cons_self)
    rw [h] at hentry
    cases hentry

end Declared

/-! ## Compiling -/

namespace RouteTable

open Declared

theorem compile_ok {seen : List String} {builder : RoutedBuilder η} {decl : RouteDeclaration}
    {route : Route η}
    (h : compile builder.typeName builder.handler seen decl = .ok route) :
    decl.pattern ∉ seen ∧ route? (builder, decl) = some route := by
  unfold compile at h
  split at h
  · cases h
  · rename_i hseen
    unfold route?
    cases hcompile : Pattern.compile? decl.pattern with
    | none =>
      rw [hcompile] at h
      cases h
    | some expression =>
      rw [hcompile] at h
      refine ⟨fun hmem => hseen (List.contains_iff_mem.mpr hmem), congrArg some ?_⟩
      exact Except.ok.inj h

theorem compile_error {seen : List String} {builder : RoutedBuilder η} {decl : RouteDeclaration}
    {error : ConfigurationError}
    (h : compile builder.typeName builder.handler seen decl = .error error) :
    Fault (builder, decl) seen error := by
  unfold compile at h
  split at h
  · rename_i hseen
    cases h
    exact .duplicate (List.contains_iff_mem.mp hseen)
  · rename_i hseen
    cases hcompile : Pattern.compile? decl.pattern with
    | none =>
      rw [hcompile] at h
      cases h
      exact .invalid (fun hmem => hseen (List.contains_iff_mem.mpr hmem)) hcompile
    | some expression =>
      rw [hcompile] at h
      cases h

/-- Patterns that are new after one more is seen. -/
theorem unseen_cons {pattern : String} {rest seen : List String} (hnew : pattern ∉ seen)
    (hrest : ∀ other ∈ rest, other ∉ pattern :: seen) :
    (∀ other ∈ pattern :: rest, other ∉ seen) ∧ pattern ∉ rest :=
  ⟨List.forall_mem_cons.mpr ⟨hnew, fun other hother hseen =>
      hrest other hother (List.mem_cons_of_mem _ hseen)⟩,
    fun hagain => hrest _ hagain List.mem_cons_self⟩

theorem compileAll_ok {seen : List String} {entries : List (Declared η)}
    {routes : List (Route η)} (h : compileAll seen entries = .ok routes) :
    (∀ pattern ∈ patterns entries, pattern ∉ seen) ∧ Sound entries ∧
      entries.map route? = routes.map some := by
  -- That the patterns are new to `seen` is what makes the first one new to the rest.
  induction entries generalizing seen routes with
  | nil =>
    obtain rfl : [] = routes := Except.ok.inj h
    exact ⟨List.forall_mem_nil _, Sound.nil, rfl⟩
  | cons entry rest ih =>
    obtain ⟨builder, decl⟩ := entry
    unfold compileAll at h
    cases hfirst : compile builder.typeName builder.handler seen decl with
    | error e =>
      rw [hfirst] at h
      cases h
    | ok route =>
      rw [hfirst] at h
      cases hrest : compileAll (decl.pattern :: seen) rest with
      | error e =>
        rw [hrest] at h
        cases h
      | ok others =>
        rw [hrest] at h
        obtain rfl : route :: others = routes := Except.ok.inj h
        obtain ⟨hnew, hroute⟩ := compile_ok hfirst
        obtain ⟨hothers, hsound, hroutes⟩ := ih hrest
        obtain ⟨hunseen, hdistinct⟩ := unseen_cons hnew hothers
        refine ⟨hunseen, hsound.cons hroute hdistinct, ?_⟩
        rw [List.map_cons, List.map_cons, hroute, hroutes]

theorem compileAll_error {seen : List String} {entries : List (Declared η)}
    {error : ConfigurationError} (h : compileAll seen entries = .error error) :
    ∃ earlier entry later, entries = earlier ++ entry :: later ∧
      (∀ pattern ∈ patterns earlier, pattern ∉ seen) ∧ Sound earlier ∧
      Fault entry (patterns earlier ++ seen) error := by
  induction entries generalizing seen with
  | nil => cases h
  | cons entry rest ih =>
    obtain ⟨builder, decl⟩ := entry
    unfold compileAll at h
    cases hfirst : compile builder.typeName builder.handler seen decl with
    | error e =>
      rw [hfirst] at h
      obtain rfl : e = error := Except.error.inj h
      exact ⟨[], _, rest, rfl, List.forall_mem_nil _, Sound.nil, compile_error hfirst⟩
    | ok route =>
      rw [hfirst] at h
      cases hrest : compileAll (decl.pattern :: seen) rest with
      | ok others =>
        rw [hrest] at h
        cases h
      | error e =>
        rw [hrest] at h
        obtain rfl : e = error := Except.error.inj h
        obtain ⟨hnew, hroute⟩ := compile_ok hfirst
        obtain ⟨earlier, entry, later, rfl, hothers, hsound, hfault⟩ := ih hrest
        obtain ⟨hunseen, hdistinct⟩ := unseen_cons hnew hothers
        refine ⟨_ :: earlier, entry, later, rfl, hunseen, hsound.cons hroute hdistinct,
          hfault.congr ?_⟩
        exact List.perm_middle.mem_iff

end RouteTable

/-! ## The order of the table -/

/-- **The order of the table**: the greater priority first, then the greater pattern. -/
def Route.Precedes (a b : Route η) : Prop :=
  b.priority < a.priority ∨ a.priority = b.priority ∧ b.pattern < a.pattern

namespace Route

theorem Precedes.asymm {a b : Route η} (h : a.Precedes b) : ¬ b.Precedes a := by
  rintro (hlt | ⟨heq, hpattern⟩)
  · rcases h with h | ⟨h, -⟩ <;> omega
  · rcases h with h | ⟨-, h⟩
    · omega
    · exact lt_asymm h hpattern

theorem before_iff {a b : Route η} :
    a.before b ↔ b.priority < a.priority ∨ a.priority = b.priority ∧ b.pattern ≤ a.pattern := by
  simp only [before, Bool.or_eq_true, Bool.and_eq_true, decide_eq_true_eq, beq_iff_eq]

theorem before_trans (a b c : Route η) (hab : a.before b) (hbc : b.before c) : a.before c := by
  rw [before_iff] at hab hbc ⊢
  rcases hab with hab | ⟨hab, hpattern⟩ <;> rcases hbc with hbc | ⟨hbc, hpattern'⟩
  · left; omega
  · left; omega
  · left; omega
  · exact .inr ⟨hab.trans hbc, hpattern'.trans hpattern⟩

theorem before_total (a b : Route η) : a.before b || b.before a := by
  rw [Bool.or_eq_true, before_iff, before_iff]
  rcases lt_trichotomy a.priority b.priority with h | h | h
  · exact .inr (.inl h)
  · rcases le_total a.pattern b.pattern with hpattern | hpattern
    · exact .inr (.inr ⟨h.symm, hpattern⟩)
    · exact .inl (.inr ⟨h, hpattern⟩)
  · exact .inl (.inl h)

theorem precedes_of_before {a b : Route η} (h : a.before b) (hne : a.pattern ≠ b.pattern) :
    a.Precedes b := by
  rcases before_iff.mp h with h | ⟨h, hpattern⟩
  · exact .inl h
  · exact .inr ⟨h, lt_of_le_of_ne hpattern hne.symm⟩

/-- Routes of distinct patterns are sorted strictly. -/
theorem pairwise_precedes_mergeSort {routes : List (Route η)}
    (h : (routes.map Route.pattern).Nodup) : (routes.mergeSort before).Pairwise Precedes := by
  -- The sort alone leaves ties; distinct patterns exclude them.
  have hsorted := List.pairwise_mergeSort before_trans before_total routes
  have hdistinct : ((routes.mergeSort before).map Route.pattern).Nodup :=
    ((List.mergeSort_perm routes before).map Route.pattern).nodup_iff.mpr h
  exact (hsorted.and (List.pairwise_map.mp hdistinct)).imp fun ⟨hbefore, hne⟩ =>
    precedes_of_before hbefore hne

end Route

/-! ## Rearranging declarations -/

/-- The same builder, its declarations in another order. -/
structure RoutedBuilder.Alike (a b : RoutedBuilder η) : Prop where
  typeName : a.typeName = b.typeName
  handler : a.handler = b.handler
  declared : a.declared.Perm b.declared

/-- **The same builders and declarations**, both in another order. -/
def Rearranged (builders others : List (RoutedBuilder η)) : Prop :=
  ∃ middle, builders.Perm middle ∧ List.Forall₂ RoutedBuilder.Alike middle others

/-- The routes that a builder with declarations contributes. -/
theorem contributedRoutes_of_ne_nil {typeName : String} {declared : List RouteDeclaration}
    (h : declared ≠ []) :
    contributedRoutes typeName declared = declared.map fun route =>
      { route with pattern := fullPattern (stemOf typeName) route.pattern } := by
  cases declared with
  | nil => exact absurd rfl h
  | cons route rest => rfl

/-- Patterns that do not begin with a slash are contributed as they are declared. -/
theorem contributedRoutes_of_whole {typeName : String} {declared : List RouteDeclaration}
    (h : declared ≠ []) (hwhole : ∀ route ∈ declared, dropStart? "/" route.pattern = none) :
    contributedRoutes typeName declared = declared := by
  rw [contributedRoutes_of_ne_nil h]
  refine (List.map_congr_left fun route hroute => ?_).trans (List.map_id declared)
  rw [fullPattern, hwhole route hroute]
  rfl

theorem contributedRoutes_perm (typeName : String) {declared others : List RouteDeclaration}
    (h : declared.Perm others) :
    (contributedRoutes typeName declared).Perm (contributedRoutes typeName others) := by
  cases declared with
  | nil => rw [List.nil_perm.mp h]
  | cons route declared =>
    cases others with
    | nil => exact absurd h.length_eq (Nat.succ_ne_zero _)
    | cons other others =>
      simp only [contributedRoutes]
      exact h.map _

/-- Rearranging rearranges all that is read off the declarations without regard to the order of
those of their builder. -/
theorem Rearranged.map_expanded {builders others : List (RoutedBuilder η)}
    (h : Rearranged builders others) {κ : Type} (f : Declared η → κ)
    (hf : ∀ a b decl, RoutedBuilder.Alike a b → f (a, decl) = f (b, decl)) :
    ((RouteTable.expanded builders).map f).Perm ((RouteTable.expanded others).map f) := by
  obtain ⟨middle, hperm, hall⟩ := h
  refine ((hperm.flatMap_right _).map f).trans ?_
  clear hperm
  induction hall with
  | nil => exact .refl _
  | @cons a b middle others hab hall ih =>
    simp only [RouteTable.expanded, List.flatMap_cons, List.map_append, List.map_map] at ih ⊢
    refine List.Perm.append ?_ ih
    rw [← hab.typeName, show f ∘ (fun decl => (a, decl)) = f ∘ fun decl => (b, decl) from
      funext fun decl => hf a b decl hab]
    exact (contributedRoutes_perm a.typeName hab.declared).map _

theorem Rearranged.sound_iff {builders others : List (RoutedBuilder η)}
    (h : Rearranged builders others) :
    Declared.Sound (RouteTable.expanded builders) ↔
      Declared.Sound (RouteTable.expanded others) := by
  have hperm : (Declared.patterns (RouteTable.expanded builders)).Perm
      (Declared.patterns (RouteTable.expanded others)) :=
    h.map_expanded _ fun _ _ _ _ => rfl
  constructor
  · rintro ⟨hdistinct, hcompiled⟩
    exact ⟨hperm.nodup_iff.mp hdistinct, fun p hp => hcompiled p (hperm.mem_iff.mpr hp)⟩
  · rintro ⟨hdistinct, hcompiled⟩
    exact ⟨hperm.nodup_iff.mpr hdistinct, fun p hp => hcompiled p (hperm.mem_iff.mp hp)⟩

theorem Rearranged.routes {builders others : List (RoutedBuilder η)}
    (h : Rearranged builders others) :
    ((RouteTable.expanded builders).map Declared.route?).Perm
      ((RouteTable.expanded others).map Declared.route?) := by
  refine h.map_expanded _ fun a b decl hab => ?_
  simp only [Declared.route?, hab.typeName, hab.handler]

/-! ## Building -/

namespace RouteTable

/-- **A table of declarations**: their routes in order, and nothing else. -/
structure Holds (table : RouteTable η) (entries : List (Declared η)) (options : PathOptions) :
    Prop where
  routes : (table.routes.map some).Perm (entries.map Declared.route?)
  ordered : table.routes.Pairwise Route.Precedes
  fallback : table.fallback = none
  options : table.options = options

/-- The routes of a table are those of its declarations. -/
theorem Holds.mem_routes_iff {table : RouteTable η} {entries : List (Declared η)}
    {options : PathOptions} (h : table.Holds entries options) {route : Route η} :
    route ∈ table.routes ↔ ∃ entry ∈ entries, entry.route? = some route := by
  rw [← List.mem_map_of_injective (fun _ _ => Option.some.inj), h.routes.mem_iff, List.mem_map]

/-- There is but one table of the same declarations. -/
theorem Holds.unique {table other : RouteTable η} {entries others : List (Declared η)}
    {options : PathOptions} (h : table.Holds entries options) (hother : other.Holds others options)
    (hperm : (entries.map Declared.route?).Perm (others.map Declared.route?)) : table = other := by
  have hroutes : table.routes.Perm other.routes :=
    (List.map_perm_map_iff (fun _ _ h => Option.some.inj h)).mp
      (h.routes.trans (hperm.trans hother.routes.symm))
  have hsame : table.routes = other.routes :=
    hroutes.eq_of_pairwise (fun _ _ _ _ hab hba => absurd hba hab.asymm) h.ordered hother.ordered
  cases table
  cases other
  simp only [mk.injEq]
  exact ⟨hsame, h.fallback.trans hother.fallback.symm, h.options.trans hother.options.symm⟩

theorem map_pattern {entries : List (Declared η)} {routes : List (Route η)}
    (h : entries.map Declared.route? = routes.map some) :
    routes.map Route.pattern = Declared.patterns entries := by
  induction entries generalizing routes with
  | nil =>
    rw [List.map_eq_nil_iff.mp h.symm]
    rfl
  | cons entry rest ih =>
    cases routes with
    | nil => cases h
    | cons route routes =>
      obtain ⟨hroute, hrest⟩ := List.cons.inj h
      obtain ⟨expression, -, rfl⟩ := Option.map_eq_some_iff.mp hroute
      exact congrArg (entry.2.pattern :: ·) (ih hrest)

theorem build_ok {builders : List (RoutedBuilder η)} {options : PathOptions}
    {table : RouteTable η} (h : build builders options = .ok table) :
    Declared.Sound (expanded builders) ∧ table.Holds (expanded builders) options := by
  unfold build at h
  cases hall : compileAll [] (expanded builders) with
  | error e =>
    rw [hall] at h
    cases h
  | ok routes =>
    rw [hall] at h
    obtain rfl := Except.ok.inj h
    obtain ⟨-, hsound, hroutes⟩ := compileAll_ok hall
    have hdistinct : (routes.map Route.pattern).Nodup := map_pattern hroutes ▸ hsound.distinct
    refine ⟨hsound, ?_, Route.pairwise_precedes_mergeSort hdistinct, rfl, rfl⟩
    rw [hroutes]
    exact (List.mergeSort_perm routes Route.before).map some

theorem build_error {builders : List (RoutedBuilder η)} {options : PathOptions}
    {error : ConfigurationError} (h : build builders options = .error error) :
    ∃ earlier entry later, expanded builders = earlier ++ entry :: later ∧
      Declared.Sound earlier ∧ entry.Fault (Declared.patterns earlier) error := by
  unfold build at h
  cases hall : compileAll [] (expanded builders) with
  | ok routes =>
    rw [hall] at h
    cases h
  | error e =>
    rw [hall] at h
    obtain rfl : e = error := Except.error.inj h
    obtain ⟨earlier, entry, later, hentries, -, hsound, hfault⟩ := compileAll_error hall
    rw [List.append_nil] at hfault
    exact ⟨earlier, entry, later, hentries, hsound, hfault⟩

theorem build_isOk_iff (builders : List (RoutedBuilder η)) (options : PathOptions) :
    (∃ table, build builders options = .ok table) ↔ Declared.Sound (expanded builders) := by
  refine ⟨fun ⟨_, h⟩ => (build_ok h).1, fun hsound => ?_⟩
  cases h : build builders options with
  | ok table => exact ⟨table, rfl⟩
  | error e =>
    obtain ⟨earlier, entry, later, hentries, -, hfault⟩ := build_error h
    exact absurd (hentries ▸ hsound) hfault.not_sound

/-- **A table of one builder**: it can be built if the patterns of the builder's routes are distinct
and compile. -/
theorem exists_holds (builder : RoutedBuilder η) (options : PathOptions)
    {routes : List RouteDeclaration}
    (hroutes : contributedRoutes builder.typeName builder.declared = routes)
    (hdistinct : (routes.map RouteDeclaration.pattern).Nodup)
    (hcompiled : ∀ decl ∈ routes, (Pattern.compile? decl.pattern).isSome) :
    ∃ table, build [builder] options = .ok table ∧
      table.Holds (routes.map fun decl => (builder, decl)) options := by
  have hexpanded : expanded [builder] = routes.map fun decl => (builder, decl) := by
    rw [expanded, List.flatMap_singleton, hroutes]
  have hpatterns :
      Declared.patterns (expanded [builder]) = routes.map RouteDeclaration.pattern := by
    rw [hexpanded, Declared.patterns, List.map_map]
    rfl
  have hsound : Declared.Sound (expanded [builder]) := by
    refine ⟨hpatterns ▸ hdistinct, fun pattern hmem => ?_⟩
    obtain ⟨decl, hdecl, rfl⟩ := List.mem_map.mp (hpatterns ▸ hmem)
    exact hcompiled decl hdecl
  obtain ⟨table, htable⟩ := (build_isOk_iff [builder] options).mpr hsound
  exact ⟨table, htable, hexpanded ▸ (build_ok htable).2⟩

theorem build_rearranged {builders others : List (RoutedBuilder η)}
    (h : Rearranged builders others) (options : PathOptions) :
    (build others options).toOption = (build builders options).toOption := by
  have hiff := (build_isOk_iff builders options).trans
    (h.sound_iff.trans (build_isOk_iff others options).symm)
  cases hbuilders : build builders options with
  | ok table =>
    obtain ⟨other, hother⟩ := hiff.mp ⟨table, hbuilders⟩
    rw [hother, (build_ok hbuilders).2.unique (build_ok hother).2 h.routes]
  | error e =>
    cases hothers : build others options with
    | ok other =>
      obtain ⟨table, htable⟩ := hiff.mpr ⟨other, hothers⟩
      rw [hbuilders] at htable
      cases htable
    | error e => rfl

/-- **What building gives.** It succeeds if no pattern stands twice and all compile, and then the
table holds the declared routes in strict order. Otherwise it fails for the first declaration that
is at fault. Builders and declarations in another order give the same table, or none as well. -/
theorem build_spec (builders : List (RoutedBuilder η)) (options : PathOptions) :
    ((∃ table, build builders options = .ok table) ↔ Declared.Sound (expanded builders)) ∧
    (match build builders options with
      | .ok table => table.Holds (expanded builders) options
      | .error error => ∃ earlier entry later, expanded builders = earlier ++ entry :: later ∧
          Declared.Sound earlier ∧ entry.Fault (Declared.patterns earlier) error) ∧
    ∀ others, Rearranged builders others →
      (build others options).toOption = (build builders options).toOption := by
  refine ⟨build_isOk_iff builders options, ?_, fun others h => build_rearranged h options⟩
  cases h : build builders options with
  | ok table => exact (build_ok h).2
  | error e => exact build_error h

/-- Two builders change places, and so do the routes of one of them. -/
theorem build_spec_swapped :
    let home : RoutedBuilder Nat := ⟨"HomeBuilder", 0, []⟩
    let list : RouteDeclaration := ⟨0, "/?$", 9⟩
    let page : RouteDeclaration := ⟨1, "/(?P<slug>[a-z]+)$", 5⟩
    let docs : RoutedBuilder Nat := ⟨"DocsBuilder", 1, [list, page]⟩
    Rearranged [home, docs] [{ docs with declared := [page, list] }, home] ∧
      (build [{ docs with declared := [page, list] }, home] {}).toOption =
        (build [home, docs] {}).toOption := by
  intro home list page docs
  have h : Rearranged [home, docs] [{ docs with declared := [page, list] }, home] :=
    ⟨[docs, home], .swap docs home [],
      .cons ⟨rfl, rfl, .swap page list []⟩ (.cons ⟨rfl, rfl, .refl []⟩ .nil)⟩
  exact ⟨h, (build_spec [home, docs] {}).2.2 _ h⟩

end RouteTable

end Folio
