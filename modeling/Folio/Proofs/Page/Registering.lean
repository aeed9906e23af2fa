import Folio.Proofs.Page.Resolving
import Mathlib.Data.List.Dedup
import Mathlib.Data.Finset.Card

/-!
# What was registered last stands on a page

A page is composed by calls that choose its master template and register components, in any order.
What was registered last under a tag is all that the page has there, at the place of that
registration, and the template that was chosen last is the master.

* `PageCall.registered?`, `PageCall.source?`: what a call registers or chooses.
* `standing`: registrations without those that later ones replace; `standing_concat`: one more of
  them. `map_fst_standing`, `find?_standing`: their tags, and what is found among them.
* `OccursAfter`, `pair_sublist_dedup_iff`: the order of last occurrences.
* **`Page.after_eq`**: the page after calls; `Page.tags_after`, `Page.component?_after_eq_some_iff`,
  `Page.contains_after_iff`, `Page.size_after`: what is seen of it.
* `Component.answer`, `answerLast`, `renderLast`, **`Page.render_after`**: what tags are answered
  with.
* **`Page.registered_last`**: what a page has after calls.
-/

namespace Folio

variable {κ : Type}

/-! ## Calls -/

/-- What a call registers, if anything. -/
def PageCall.registered? : PageCall κ → Option (String × κ)
  | .setMaster _ => none
  | .register tag component => some (tag, component)

/-- The master template that a call chooses, if any. -/
def PageCall.source? : PageCall κ → Option MasterTemplate
  | .setMaster source => some source
  | .register _ _ => none

theorem Page.after_concat (page : Page κ) (calls : List (PageCall κ)) (call : PageCall κ) :
    page.after (calls ++ [call]) = (page.after calls).next call := by
  rw [after, List.foldl_append]
  rfl

/-! ## What stands -/

/-- Registrations without those whose tag is registered again later. -/
def standing : List (String × κ) → List (String × κ)
  | [] => []
  | entry :: rest =>
    if entry.1 ∈ rest.map Prod.fst then standing rest else entry :: standing rest

/-- One more registration takes the place of what stood under its tag, at the end. -/
theorem standing_concat (entries : List (String × κ)) (tag : String) (component : κ) :
    standing (entries ++ [(tag, component)]) =
      (standing entries).filter (fun entry => entry.1 ≠ tag) ++ [(tag, component)] := by
  induction entries with
  | nil => rfl
  | cons entry rest ih =>
    have hkeys : (rest ++ [(tag, component)]).map Prod.fst = rest.map Prod.fst ++ [tag] := by
      rw [List.map_append]
      rfl
    rw [List.cons_append, standing, standing, hkeys, ih]
    by_cases hlater : entry.1 ∈ rest.map Prod.fst
    · rw [if_pos hlater, if_pos (List.mem_append_left _ hlater)]
    · by_cases htag : entry.1 = tag
      · rw [if_neg hlater, if_pos (by simp [htag]), List.filter_cons_of_neg (by simp [htag])]
      · rw [if_neg hlater, if_neg (by simp [hlater, htag]),
          List.filter_cons_of_pos (by simp [htag]), List.cons_append]

/-- Each tag stands once, where it was registered last. -/
theorem map_fst_standing (entries : List (String × κ)) :
    (standing entries).map Prod.fst = (entries.map Prod.fst).dedup := by
  induction entries with
  | nil => rfl
  | cons entry rest ih =>
    rw [standing, List.map_cons]
    split
    · next hlater => rw [ih, List.dedup_cons_of_mem hlater]
    · next hlast => rw [List.map_cons, ih, List.dedup_cons_of_notMem hlast]

theorem isSome_find?_standing {entries : List (String × κ)} {tag : String} :
    ((standing entries).find? fun entry => entry.1 = tag).isSome = true ↔
      tag ∈ entries.map Prod.fst := by
  rw [isSome_find?_key_iff, map_fst_standing, List.mem_dedup]

/-- What stands under a tag is the last of its registrations. -/
theorem find?_standing (entries : List (String × κ)) (tag : String) :
    (standing entries).find? (fun entry => entry.1 = tag) =
      entries.reverse.find? fun entry => entry.1 = tag := by
  induction entries with
  | nil => rfl
  | cons entry rest ih =>
    rw [standing, List.reverse_cons, List.find?_append, List.find?_singleton, ← ih]
    by_cases htag : entry.1 = tag
    · subst htag
      rw [decide_eq_true rfl, if_pos rfl]
      split
      · next hlater =>
        exact (Option.or_of_isSome (isSome_find?_standing.mpr hlater)).symm
      · next hlast =>
        have hnone := Option.not_isSome_iff_eq_none.mp (mt isSome_find?_standing.mp hlast)
        rw [hnone, Option.none_or]
        exact List.find?_cons_of_pos (decide_eq_true rfl)
    · rw [decide_eq_false htag, if_neg Bool.false_ne_true, Option.or_none]
      split
      · rfl
      · rw [List.find?_cons_of_neg (by simp [htag])]

/-! ## Their order -/

/-- `other` occurs after the last occurrence of `tag`. -/
def OccursAfter (tags : List String) (tag other : String) : Prop :=
  ∃ earlier later, tags = earlier ++ tag :: later ∧ tag ∉ later ∧ other ∈ later

theorem occursAfter_cons {tags : List String} {first tag other : String} :
    OccursAfter (first :: tags) tag other ↔
      (first = tag ∧ tag ∉ tags ∧ other ∈ tags) ∨ OccursAfter tags tag other := by
  constructor
  · rintro ⟨earlier, later, htags, hlater⟩
    cases earlier with
    | nil =>
      obtain ⟨rfl, rfl⟩ := List.cons.inj htags
      exact .inl ⟨rfl, hlater⟩
    | cons _ earlier => exact .inr ⟨earlier, later, (List.cons.inj htags).2, hlater⟩
  · rintro (⟨rfl, hlater⟩ | ⟨earlier, later, rfl, hlater⟩)
    · exact ⟨[], tags, rfl, hlater⟩
    · exact ⟨first :: earlier, later, rfl, hlater⟩

/-- **Last occurrences stand in their order.** -/
theorem pair_sublist_dedup_iff {tags : List String} {tag other : String} :
    [tag, other].Sublist tags.dedup ↔ OccursAfter tags tag other := by
  induction tags with
  | nil => simp [OccursAfter]
  | cons first tags ih =>
    rw [occursAfter_cons, ← ih]
    by_cases hlater : first ∈ tags
    · rw [List.dedup_cons_of_mem hlater]
      refine (or_iff_right ?_).symm
      rintro ⟨rfl, hlast, -⟩
      exact hlast hlater
    · rw [List.dedup_cons_of_notMem hlater, List.sublist_cons_iff, or_comm]
      refine or_congr_left ?_
      constructor
      · rintro ⟨_, hpair, hother⟩
        obtain ⟨rfl, rfl⟩ := List.cons.inj hpair
        exact ⟨rfl, hlater, List.mem_dedup.mp (List.singleton_sublist.mp hother)⟩
      · rintro ⟨rfl, -, hother⟩
        exact ⟨[other], rfl, List.singleton_sublist.mpr (List.mem_dedup.mpr hother)⟩

/-! ## The page after calls -/

/-- **The page after calls.** -/
theorem Page.after_eq (calls : List (PageCall κ)) :
    ({} : Page κ).after calls =
      { master := (calls.filterMap PageCall.source?).getLast?
        components := standing (calls.filterMap PageCall.registered?) } := by
  induction calls using List.reverseRecOn with
  | nil => rfl
  | append_singleton calls call ih =>
    rw [after_concat, ih, List.filterMap_append, List.filterMap_append]
    cases call with
    | setMaster source =>
      simp [next, setMaster, PageCall.source?, PageCall.registered?, List.filterMap_cons]
    | register tag component =>
      simp [next, register, PageCall.source?, PageCall.registered?, List.filterMap_cons,
        standing_concat]

section After

variable (calls : List (PageCall κ))

theorem Page.tags_after : (({} : Page κ).after calls).tags =
    ((calls.filterMap PageCall.registered?).map Prod.fst).dedup := by
  rw [after_eq]
  exact map_fst_standing _

theorem Page.component?_after_eq_some_iff {tag : String} {component : κ} :
    (({} : Page κ).after calls).component? tag = some component ↔
      IsLast (fun entry => entry.1 = tag) (calls.filterMap PageCall.registered?)
        (tag, component) := by
  rw [after_eq, component?, find?_standing, Option.map_eq_some_iff]
  simp only [find?_reverse_eq_some_iff, decide_eq_true_eq]
  constructor
  · rintro ⟨⟨other, component⟩, hlast, rfl⟩
    obtain rfl : other = tag := hlast.1
    exact hlast
  · intro hlast
    exact ⟨_, hlast, rfl⟩

theorem Page.contains_eq (page : Page κ) (tag : String) :
    page.contains tag = (page.component? tag).isSome := by
  rw [contains, component?, Option.isSome_map, List.isSome_find?]

theorem Page.contains_after_iff {tag : String} :
    (({} : Page κ).after calls).contains tag = true ↔
      tag ∈ (calls.filterMap PageCall.registered?).map Prod.fst := by
  rw [contains_eq, after_eq, component?, Option.isSome_map]
  exact isSome_find?_standing

theorem Page.size_after : (({} : Page κ).after calls).size =
    ((calls.filterMap PageCall.registered?).map Prod.fst).toFinset.card := by
  rw [List.card_toFinset, ← tags_after, tags, List.length_map]
  rfl

end After

/-! ## Answers -/

section Answers

variable {ν β : Type}

/-- What a tag is answered with that stands for a component: a view is rendered, and a builder is
built once more. -/
def Component.answer (meaning : Meaning ν β) (times : Nat) : Component ν β → Render Unit
  | .view shown => meaning.view shown
  | .builder _ nested => do
    Render.measure (.nestedBuild .page)
    meaning.build nested times

theorem Page.answerBy_of_some (context : Context) {page : Page (Component ν β)} {tag : String}
    (seen : List String) {component : Component ν β} (h : page.component? tag = some component)
    (meaning : Meaning ν β) :
    page.answerBy context tag seen meaning = component.answer meaning (seen.count tag) := by
  cases component with
  | view shown => exact answerBy_view context seen h meaning
  | builder name nested =>
    rw [answerBy, answerTag, component?_map, h]
    rfl

/-- A tag that stands for nothing on a page is answered as on a page that has nothing at all. -/
theorem Page.answerBy_of_none (context : Context) {page : Page (Component ν β)} {tag : String}
    (seen : List String) (h : page.component? tag = none) (meaning : Meaning ν β) :
    page.answerBy context tag seen meaning =
      ({} : Page (Component ν β)).answerBy context tag seen meaning := by
  rw [answerBy, answerBy, answerTag, answerTag, component?_map, h]
  rfl

/-- Answer a tag with what was registered last under it, or as on a page that has nothing. -/
def answerLast (context : Context) (meaning : Meaning ν β)
    (registered : List (String × Component ν β)) (tag : String) (seen : List String) :
    Render Unit :=
  match registered.reverse.find? fun entry => entry.1 = tag with
  | some entry => entry.2.answer meaning (seen.count tag)
  | none => ({} : Page (Component ν β)).answerBy context tag seen meaning

/-- Scan a master template and answer its tags with what was registered last under them. -/
def renderLast (context : Context) (meaning : Meaning ν β) (builder : String)
    (master : Option MasterTemplate) (registered : List (String × Component ν β)) : Render Unit :=
  let onTag : TagHandler (List String) := fun tag seen => do
    answerLast context meaning registered tag seen
    return tag :: seen
  match master with
  | some (.file name) => Render.scanTemplate context name onTag []
  | some (.text text) => Render.scanInline context text onTag []
  | none => Render.fail (.missingMasterTemplate builder)

variable (calls : List (PageCall (Component ν β)))

theorem Page.answerBy_after (context : Context) (meaning : Meaning ν β) (tag : String)
    (seen : List String) :
    (({} : Page (Component ν β)).after calls).answerBy context tag seen meaning =
      answerLast context meaning (calls.filterMap PageCall.registered?) tag seen := by
  have hfound : (({} : Page (Component ν β)).after calls).component? tag =
      ((calls.filterMap PageCall.registered?).reverse.find? fun entry => entry.1 = tag).map
        Prod.snd := by
    rw [after_eq, component?, find?_standing]
  unfold answerLast
  cases hlast : (calls.filterMap PageCall.registered?).reverse.find? fun entry => entry.1 = tag with
  | some entry => exact answerBy_of_some context seen (hfound.trans (congrArg _ hlast)) meaning
  | none => exact answerBy_of_none context seen (hfound.trans (congrArg _ hlast)) meaning

/-- **Rendering sees what was registered last**, in the template that was chosen last. -/
theorem Page.render_after (context : Context) (meaning : Meaning ν β) (builder : String) :
    ((({} : Page (Component ν β)).after calls).map (Component.ready meaning)).render context
        meaning.inner builder =
      renderLast context meaning builder (calls.filterMap PageCall.source?).getLast?
        (calls.filterMap PageCall.registered?) := by
  have hmaster : ((({} : Page (Component ν β)).after calls).map (Component.ready meaning)).master =
      (calls.filterMap PageCall.source?).getLast? := congrArg Page.master (after_eq calls)
  have honTag : (fun tag (seen : List String) => do
      ((({} : Page (Component ν β)).after calls).map (Component.ready meaning)).answerTag context
        meaning.inner tag seen
      return tag :: seen : TagHandler (List String)) = fun tag seen => do
        answerLast context meaning (calls.filterMap PageCall.registered?) tag seen
        return tag :: seen := by
    funext tag seen
    rw [← answerBy_after]
    rfl
  unfold render renderLast
  dsimp only
  rw [honTag]
  generalize (calls.filterMap PageCall.source?).getLast? = master at hmaster ⊢
  subst hmaster
  rfl

end Answers

/-- **What was registered last stands on a page.** After calls that choose master templates and
register views and builders, in any order,

* the tags are distinct, and they are those of the registrations, each where it was registered last;
* what is found under a tag, if anything, is what was registered last under it, and there are as
  many tags as different ones were registered;
* the master template is the one that was chosen last, and calls that register the same leave the
  same components, whatever they choose;
* rendering scans that template and answers each tag with what was registered last under it.

The page that a builder composes is such a page. -/
theorem Page.registered_last {ν β : Type} (calls : List (PageCall (Component ν β))) :
    let registered := calls.filterMap PageCall.registered?
    let master := (calls.filterMap PageCall.source?).getLast?
    let page := ({} : Page (Component ν β)).after calls
    page.tags.Nodup ∧
    (∀ tag, tag ∈ page.tags ↔ tag ∈ registered.map Prod.fst) ∧
    (∀ tag other, [tag, other].Sublist page.tags ↔
      OccursAfter (registered.map Prod.fst) tag other) ∧
    (∀ tag component, page.component? tag = some component ↔
      IsLast (fun entry => entry.1 = tag) registered (tag, component)) ∧
    (∀ tag, page.contains tag = true ↔ tag ∈ registered.map Prod.fst) ∧
    page.size = (registered.map Prod.fst).toFinset.card ∧
    page.master = master ∧
    (∀ others, others.filterMap PageCall.registered? = registered →
      (({} : Page (Component ν β)).after others).components = page.components) ∧
    (∀ context meaning builder,
      (page.map (Component.ready meaning)).render context meaning.inner builder =
        renderLast context meaning builder master registered) ∧
    ∀ (builder : Builder) context inner cycle, builder.build context inner cycle = (do
      let calls ← builder.calls context inner cycle
      renderLast context (.of inner) builder.name (calls.filterMap PageCall.source?).getLast?
        (calls.filterMap PageCall.registered?)) := by
  intro registered master page
  have htags : page.tags = (registered.map Prod.fst).dedup := tags_after calls
  refine ⟨?_, fun tag => ?_, fun tag other => ?_, fun tag component => ?_, fun tag => ?_,
    size_after calls, congrArg Page.master (after_eq calls), fun others hothers => ?_,
    render_after calls, fun builder context inner cycle => ?_⟩
  · rw [htags]
    exact List.nodup_dedup _
  · rw [htags, List.mem_dedup]
  · rw [htags, pair_sublist_dedup_iff]
  · exact component?_after_eq_some_iff calls
  · exact contains_after_iff calls
  · rw [after_eq others, hothers]
    exact (congrArg Page.components (after_eq calls)).symm
  · rw [builder.build_eq, Builder.page, bind_assoc]
    exact congrArg _ (funext fun made => render_after made context (.of inner) builder.name)

end Folio
