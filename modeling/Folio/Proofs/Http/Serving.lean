import Folio.Http.Answer
import Folio.Proofs.Route.Confinement
import Folio.Proofs.Site.Accounting
import Folio.Proofs.Site.Answering

/-!
# Answers over HTTP

A page is written into a buffer, which takes every text. So the answer to a request holds all that
is written, up to a failure if there is one. The status follows from where the path leads and how
the page ends, and the counters follow the answers. Only a page that never ends has no answer.

* `RouteTable.isRouted`: paths that a route matches.
* `Site.handle_ok`: who a page that does not fail ends with.
* **`Answered`**: status and page of a request, by how serving it ends.
* `Served`, `serveAll`: requests answered one after the other.
* **`serveAll_accounted`**: answers and counters, over any requests.
-/

namespace Folio

/-! ## Routed paths -/

namespace RouteTable

variable {η : Type} {table : RouteTable η} {path : String}

/-- Does a route match the path? -/
def isRouted (table : RouteTable η) (path : String) : Bool :=
  (table.appRelative? path).any fun relative =>
    table.routes.any fun route => (route.expression.program.search relative).isSome

theorem resolve_of_isRouted (h : table.isRouted path = true) :
    ∃ found, table.resolve path = some found ∧ found.fallback = false := by
  cases hrelative : table.appRelative? path with
  | none =>
    rw [isRouted, hrelative] at h
    cases h
  | some relative =>
    rw [isRouted, hrelative, Option.any_some] at h
    obtain ⟨route, hmem, hmatches⟩ := List.any_eq_true.mp h
    exact resolve_of_matches hrelative hmem hmatches

theorem resolve_of_unrouted (h : table.isRouted path = false) :
    table.resolve path = table.fallbackMatch? := by
  rw [resolve]
  cases hrelative : table.appRelative? path with
  | none => rfl
  | some relative =>
    rw [isRouted, hrelative, Option.any_some] at h
    have hfirst : table.firstMatch? relative = none :=
      firstMatch?_eq_none (List.any_eq_false.mp h)
    rw [Option.bind_some, hfirst]

end RouteTable

namespace Site

theorem misses_eq (site : Site) (path : String) :
    site.misses path =
      if site.routes.isRouted path then [] else [.routeMiss site.routes.fallback.isSome] := by
  unfold misses
  cases hrouted : site.routes.isRouted path with
  | true =>
    obtain ⟨found, hfound, hroute⟩ := RouteTable.resolve_of_isRouted hrouted
    simp [hfound, hroute]
  | false =>
    rw [RouteTable.resolve_of_unrouted hrouted, RouteTable.fallbackMatch?]
    cases site.routes.fallback <;> rfl

end Site

/-! ## Who served a request -/

/-- The rendering ends with a value, unless it fails. -/
def Render.Yields {α : Type} (x : Render α) (value : α) : Prop :=
  ∀ start a, (x start).1 = .ok a → a = value

theorem Render.Yields.pure {α : Type} (value : α) : (pure value : Render α).Yields value :=
  fun _ _ h => (Except.ok.inj h).symm

theorem Render.Yields.bind {α β : Type} (x : Render α) {f : α → Render β} {value : β}
    (h : ∀ a, (f a).Yields value) : (x >>= f).Yields value := by
  intro start b hb
  rw [bind_apply] at hb
  revert hb
  rcases x start with ⟨_ | a, next⟩
  · exact nofun
  · exact h a next b

theorem Render.Yields.map {α β : Type} {x : Render α} {a : α} (h : x.Yields a) (f : α → β) :
    (x >>= fun a => Pure.pure (f a)).Yields (f a) := by
  intro start b hb
  have hvalue := h start
  rw [bind_apply] at hb
  revert hb hvalue
  rcases x start with ⟨_ | other, next⟩
  · exact nofun
  · rintro ⟨⟩ hvalue
    rw [hvalue other rfl]

namespace Site

/-- **A request that does not fail ends with who served it**, if anybody did. -/
theorem handle_ok (site : Site) (depth : Nat) (request : Request) :
    (site.handle depth request).Yields ((site.routes.resolve request.path).map fun found =>
      { routeId := found.routeId, builder := found.typeName, fallback := found.fallback }) := by
  unfold handle
  cases site.routes.resolve request.path with
  | none => exact .bind _ fun _ => .pure none
  | some found =>
    have hserve : (site.serve depth request found).Yields
        { routeId := found.routeId, builder := found.typeName, fallback := found.fallback } := by
      unfold serve
      dsimp only
      split
      · exact .bind _ fun _ => .bind _ fun _ => .bind _ fun _ => .pure _
      · exact .bind _ fun _ => .bind _ fun _ => .pure _
    exact hserve.map some

/-- An answer is the outcome at every depth at which the request is not cut short. -/
theorem outcome?_of_answer {site : Site} {request : Request} {sink : Sink} {shared : Shared}
    {answer : Outcome (Option Dispatch) × Shared}
    (h : site.answer request sink shared = some answer) {depth : Nat}
    (hdepth : (site.handle depth request { shared := shared, sink := sink }).1 ≠ .error .tooDeep) :
    (site.handle depth request).outcome? sink shared = some answer := by
  obtain ⟨first, hfirst⟩ := answer_eq_some_iff.mp h
  rw [Ne, ← Render.outcome?_eq_none_iff] at hdepth
  obtain ⟨other, hother⟩ := Option.ne_none_iff_exists'.mp hdepth
  rw [hother, Render.outcome?_unique (site.handle_within request) hother hfirst]

end Site

namespace Http

/-! ## Answers -/

/-- **Status and page of a request**, by how serving it ends in an open sink. -/
inductive Answered (site : Site) (path : String)
    (run : Except Failure (Option Dispatch) × Rendering) : Nat → String → Prop
  /-- A route matches and the whole page is written. -/
  | page {dispatch : Dispatch} (hrouted : site.routes.isRouted path = true)
    (hwhole : run.1 = .ok (some dispatch)) : Answered site path run 200 run.2.sink.text
  /-- Only the fallback takes the path and its whole page is written. -/
  | fallback {dispatch : Dispatch} (hrouted : site.routes.isRouted path = false)
    (hfallback : site.routes.fallback.isSome) (hwhole : run.1 = .ok (some dispatch)) :
    Answered site path run 404 run.2.sink.text
  /-- Nothing takes the path. -/
  | nowhere (hrouted : site.routes.isRouted path = false)
    (hfallback : site.routes.fallback = none) : Answered site path run 404 noRouteText
  /-- The page fails; what was written before stays. -/
  | failed {error : RenderError} (hfailed : run.1 = .error (.error error)) :
    Answered site path run 500 run.2.sink.text
  /-- The page panics; nothing stays. -/
  | panicked (hpanicked : run.1 = .error .panic) : Answered site path run 500 ""

/-- Every rendered page is answered with its status and its text. -/
theorem pageAnswer_answered {site : Site} {request : Request} {depth : Nat} {shared next : Shared}
    {outcome : Outcome (Option Dispatch)}
    (h : (site.handle depth request).outcome? {} shared = some (outcome, next)) :
    Answered site request.path (site.handle depth request { shared := shared })
      (pageAnswer outcome).1 (pageAnswer outcome).2 := by
  have hyields := site.handle_ok depth request { shared := shared }
  rw [Render.outcome?_eq] at h
  revert h hyields
  rcases site.handle depth request { shared := shared } with ⟨(error | _ | _) | dispatch, last⟩
  · rintro ⟨⟩ -
    exact .failed rfl
  · rintro ⟨⟩ -
    exact .panicked rfl
  · exact nofun
  · rintro ⟨⟩ hyields
    obtain rfl := hyields dispatch rfl
    cases hrouted : site.routes.isRouted request.path with
    | true =>
      obtain ⟨found, hfound, hroute⟩ := RouteTable.resolve_of_isRouted hrouted
      simp only [hfound, Option.map_some, pageAnswer, hroute]
      exact .page hrouted rfl
    | false =>
      rw [RouteTable.resolve_of_unrouted hrouted, RouteTable.fallbackMatch?]
      cases hfallback : site.routes.fallback with
      | none => exact .nowhere hrouted hfallback
      | some entry =>
        exact .fallback hrouted (hfallback ▸ rfl) rfl

/-! ## Requests one after the other -/

/-- Is the target a page? -/
def HttpRequest.isPage (request : HttpRequest) : Bool :=
  request.uri.path.toList.head? = some '/'

/-- A request, the registries that it came upon, and what came of it. -/
structure Served where
  request : HttpRequest
  before : Shared
  exchange : Exchange

/-- Answer requests one after the other, and give what they leave. If one of them has no answer,
those after it have none. -/
def serveAll (site : Site) (shared : Shared) : List HttpRequest → Option (List Served × Shared)
  | [] => some ([], shared)
  | request :: requests => do
    let (exchange, next) ← respond site request shared
    let (rest, last) ← serveAll site next requests
    return (⟨request, shared, exchange⟩ :: rest, last)

section ServeAll

variable {site : Site} {shared : Shared}

theorem serveAll_cons {request : HttpRequest} {requests : List HttpRequest}
    {all : List Served} {last : Shared}
    (h : serveAll site shared (request :: requests) = some (all, last)) :
    ∃ exchange next rest, respond site request shared = some (exchange, next) ∧
      serveAll site next requests = some (rest, last) ∧
      all = ⟨request, shared, exchange⟩ :: rest := by
  simp only [serveAll, Option.bind_eq_bind, Option.bind_eq_some_iff] at h
  obtain ⟨⟨exchange, next⟩, hrespond, ⟨rest, final⟩, hrest, hall⟩ := h
  cases hall
  exact ⟨exchange, next, rest, hrespond, hrest, rfl⟩

/-- What holds of every exchange holds of all of them. -/
theorem serveAll_induct {P : Served → Prop}
    (h : ∀ request shared exchange next, respond site request shared = some (exchange, next) →
      P ⟨request, shared, exchange⟩)
    {requests : List HttpRequest} {all : List Served} {last : Shared}
    (hall : serveAll site shared requests = some (all, last)) : ∀ served ∈ all, P served := by
  induction requests generalizing shared all with
  | nil =>
    cases hall
    exact List.forall_mem_nil _
  | cons request requests ih =>
    obtain ⟨exchange, next, rest, hrespond, hrest, rfl⟩ := serveAll_cons hall
    exact List.forall_mem_cons.mpr ⟨h _ _ _ _ hrespond, ih hrest⟩

theorem requests_serveAll {requests : List HttpRequest} {all : List Served} {last : Shared}
    (hall : serveAll site shared requests = some (all, last)) :
    all.map Served.request = requests := by
  induction requests generalizing shared all with
  | nil =>
    cases hall
    rfl
  | cons request requests ih =>
    obtain ⟨exchange, next, rest, -, hrest, rfl⟩ := serveAll_cons hall
    exact congrArg (request :: ·) (ih hrest)

/-- Only pages that are cut short at every depth have no answer. -/
theorem respond_eq_none_iff {request : HttpRequest} :
    respond site request shared = none ↔ request.isPage = true ∧
      ∀ depth, (site.handle depth request.page { shared := shared }).1 = .error .tooDeep := by
  unfold respond HttpRequest.isPage
  split
  case isTrue h =>
    rw [Option.map_eq_none_iff, Site.answer_eq_none_iff]
    simp [h]
  case isFalse h => simp [h]

/-- **Requests have no answers** exactly if one of them is a page that never ends. -/
theorem serveAll_eq_none_iff {requests : List HttpRequest} :
    serveAll site shared requests = none ↔
      ∃ earlier request later all reached, requests = earlier ++ request :: later ∧
        serveAll site shared earlier = some (all, reached) ∧ request.isPage = true ∧
        ∀ depth, (site.handle depth request.page { shared := reached }).1 = .error .tooDeep := by
  induction requests generalizing shared with
  | nil => simp [serveAll]
  | cons request requests ih =>
    constructor
    · intro h
      cases hrespond : respond site request shared with
      | none =>
        exact ⟨[], request, requests, [], shared, rfl, rfl, respond_eq_none_iff.mp hrespond⟩
      | some answer =>
        obtain ⟨exchange, next⟩ := answer
        have hrest : serveAll site next requests = none := by
          rw [serveAll, hrespond] at h
          cases hall : serveAll site next requests with
          | none => rfl
          | some rest =>
            simp [hall] at h
        obtain ⟨earlier, asked, later, all, reached, rfl, hearlier, hdeep⟩ := ih.mp hrest
        refine ⟨request :: earlier, asked, later, ⟨request, shared, exchange⟩ :: all, reached, rfl,
          ?_, hdeep⟩
        simp [serveAll, hrespond, hearlier]
    · rintro ⟨_ | ⟨first, earlier⟩, asked, later, all, reached, hrequests, hearlier, hdeep⟩
      · obtain ⟨rfl, rfl⟩ := List.cons.inj hrequests
        cases hearlier
        simp [serveAll, respond_eq_none_iff.mpr hdeep]
      · obtain ⟨rfl, rfl⟩ := List.cons.inj hrequests
        obtain ⟨exchange, next, rest, hrespond, hrest, -⟩ := serveAll_cons hearlier
        have hnone : serveAll site next (earlier ++ asked :: later) = none :=
          ih.mpr ⟨earlier, asked, later, rest, reached, rfl, hrest, hdeep⟩
        simp [serveAll, hrespond, hnone]

end ServeAll

/-! ## Exchanges -/

section Exchange

variable {site : Site} {request : HttpRequest} {shared next : Shared} {exchange : Exchange}
  (h : respond site request shared = some (exchange, next))

include h

/-- The exchange of a page is that of its answer. -/
theorem respond_page (hpage : request.isPage = true) :
    ∃ outcome, site.answer request.page {} shared = some (outcome, next) ∧
      exchange = pageExchange request outcome := by
  unfold respond at h
  rw [if_pos (of_decide_eq_true hpage), Option.map_eq_some_iff] at h
  obtain ⟨⟨outcome, after⟩, houtcome, hexchange⟩ := h
  cases hexchange
  exact ⟨outcome, houtcome, rfl⟩

/-- A target that is no page counts nothing. -/
theorem respond_other (hpage : request.isPage = false) : exchange.measurements = [] := by
  unfold respond at h
  rw [if_neg (of_decide_eq_false hpage)] at h
  cases h
  rfl

/-- What the exchange of a page counts beside itself: whether no route matched. -/
theorem respond_missed (hpage : request.isPage = true) (measurement : Measurement)
    (hnested : ∀ source, measurement ≠ .nestedBuild source) :
    exchange.measurements.count measurement =
      (site.misses request.uri.path).count measurement +
        [.request request.method exchange.response.status, .requestDuration].count measurement := by
  obtain ⟨outcome, hanswer, rfl⟩ := respond_page h hpage
  obtain ⟨depth, hdepth⟩ := Site.answer_eq_some_iff.mp hanswer
  have hmissed := site.handle_missed depth request.page shared {} measurement hnested
  rw [Render.outcome?_eq, Option.map_eq_some_iff] at hdepth
  obtain ⟨ending, -, houtcome⟩ := hdepth
  cases houtcome
  simp only [pageExchange, List.count_append, List.count_reverse]
  exact congrArg (· + _) hmissed

/-- What an exchange counts of requests: a page once, with its method and status. -/
theorem respond_requests (method : String) (status : Nat) :
    exchange.measurements.count (.request method status) =
      if request.isPage && request.method = method && exchange.response.status = status
      then 1 else 0 := by
  cases hpage : request.isPage with
  | false =>
    rw [respond_other h hpage]
    rfl
  | true =>
    rw [respond_missed h hpage (.request method status) nofun, Site.misses_eq]
    by_cases hmethod : request.method = method <;>
      by_cases hstatus : exchange.response.status = status <;>
        cases site.routes.isRouted request.uri.path <;> simp [hmethod, hstatus]

/-- What an exchange counts of missed routes: a page once that no route matches. -/
theorem respond_misses (fallback : Bool) :
    exchange.measurements.count (.routeMiss fallback) =
      if request.isPage && !site.routes.isRouted request.uri.path &&
        site.routes.fallback.isSome = fallback then 1 else 0 := by
  cases hpage : request.isPage with
  | false =>
    rw [respond_other h hpage]
    rfl
  | true =>
    rw [respond_missed h hpage (.routeMiss fallback) nofun, Site.misses_eq]
    by_cases hfallback : site.routes.fallback.isSome = fallback <;>
      cases site.routes.isRouted request.uri.path <;> simp [hfallback]

end Exchange

/-- Counting over any requests is counting the answers, where each of these counts at most once. -/
theorem count_serveAll {site : Site} {measurement : Measurement} {counts : Served → Bool}
    (h : ∀ request shared exchange next, respond site request shared = some (exchange, next) →
      exchange.measurements.count measurement =
        if counts ⟨request, shared, exchange⟩ then 1 else 0)
    {shared : Shared} {requests : List HttpRequest} {all : List Served} {last : Shared}
    (hall : serveAll site shared requests = some (all, last)) :
    (all.flatMap fun served => served.exchange.measurements).count measurement =
      all.countP counts := by
  induction requests generalizing shared all with
  | nil =>
    cases hall
    rfl
  | cons request requests ih =>
    obtain ⟨exchange, next, rest, hrespond, hrest, rfl⟩ := serveAll_cons hall
    rw [List.flatMap_cons, List.count_append, List.countP_cons, h _ _ _ _ hrespond, ih hrest,
      Nat.add_comm]

/-- **Answers and counters over any requests.** They are answered in turn, unless one of them is a
page that never ends: one that is cut short however deep it may nest. A page is answered with its
status and its text, which some methods drop; these are the ones that serving it gives at every
depth at which it is not cut short. Requests are counted by method and status, and missed routes by
whether there is a fallback, each as often as there are such answers. -/
theorem serveAll_accounted (site : Site) (shared : Shared) (requests : List HttpRequest) :
    match serveAll site shared requests with
    | none => ∃ earlier request later all reached, requests = earlier ++ request :: later ∧
      serveAll site shared earlier = some (all, reached) ∧ request.isPage ∧
      ∀ depth, (site.handle depth request.page { shared := reached }).1 = .error .tooDeep
    | some (all, _) =>
      let counted := all.flatMap fun served => served.exchange.measurements
      all.map Served.request = requests ∧
      (∀ served ∈ all, served.request.isPage →
        let run depth := site.handle depth served.request.page { shared := served.before }
        ∃ status page, (∃ depth, (run depth).1 ≠ .error .tooDeep) ∧
          (∀ depth, (run depth).1 ≠ .error .tooDeep →
            Answered site served.request.uri.path (run depth) status page) ∧
          served.exchange.response =
            { status := status
              contentType := some htmlType
              requestId := served.request.header? requestIdHeader
              body := if hasBody served.request.method status then page else "" }) ∧
      (∀ method status, counted.count (.request method status) =
        all.countP fun served => served.request.isPage && served.request.method = method &&
          served.exchange.response.status = status) ∧
      ∀ fallback, counted.count (.routeMiss fallback) =
        all.countP fun served => served.request.isPage &&
          !site.routes.isRouted served.request.uri.path &&
          site.routes.fallback.isSome = fallback := by
  cases hall : serveAll site shared requests with
  | none => exact serveAll_eq_none_iff.mp hall
  | some result =>
    obtain ⟨all, last⟩ := result
    refine ⟨requests_serveAll hall, ?_, fun method status => ?_, fun fallback => ?_⟩
    · refine serveAll_induct (fun request before exchange next hrespond hpage => ?_) hall
      obtain ⟨outcome, hanswer, rfl⟩ := respond_page hrespond hpage
      obtain ⟨depth, hdepth⟩ := Site.answer_eq_some_iff.mp hanswer
      refine ⟨(pageAnswer outcome).1, (pageAnswer outcome).2, ⟨depth, ?_⟩, fun depth hnot => ?_,
        rfl⟩
      · rw [Ne, ← Render.outcome?_eq_none_iff, hdepth]
        exact nofun
      · exact pageAnswer_answered (Site.outcome?_of_answer hanswer hnot)
    · exact count_serveAll (fun _ _ _ _ hrespond => respond_requests hrespond method status) hall
    · exact count_serveAll (fun _ _ _ _ hrespond => respond_misses hrespond fallback) hall

end Http

end Folio
