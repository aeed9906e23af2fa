import Folio.Http.Message
import Folio.Site.Dispatch

/-!
# Serving pages over HTTP

Every path of a site is a page, whatever the method. The page is rendered into a buffer, so that the
status can follow the outcome.

* `htmlType`, `noRouteText`: the content type of pages, and the text where nothing takes a path.
* **`pageAnswer`**: status and body of a rendered page; `pageExchange`: all of its exchange.
* **`respond`**: the answer to a request, and the registries after it.
-/

namespace Folio.Http

/-- The content type of pages. -/
def htmlType : String := "text/html; charset=utf-8"

/-- The body of an answer where neither a route nor a fallback takes the path. -/
def noRouteText : String := "No matching route found"

/-- The header that numbers requests. -/
def requestIdHeader : String := "x-request-id"

/-- **Status and body of a rendered page.** A failed page keeps what was written before the failure;
one that panicked keeps nothing. -/
def pageAnswer (outcome : Outcome (Option Dispatch)) : Nat × String :=
  match outcome.ending with
  | .returned (some dispatch) => (if dispatch.fallback then 404 else 200, outcome.body)
  | .returned none => (404, noRouteText)
  | .failed _ => (500, outcome.body)
  | .panicked => (500, "")

/-- An answer with what rendering it left behind. -/
structure Exchange where
  response : HttpResponse
  journal : List Note := []
  measurements : List Measurement := []

/-- Answers to some methods have no body. -/
def hasBody (method : String) (status : Nat) : Bool :=
  !(method = "HEAD" || (method = "CONNECT" && 200 ≤ status && status < 300))

/-- The exchange of a page that was rendered. -/
def pageExchange (request : HttpRequest) (outcome : Outcome (Option Dispatch)) : Exchange :=
  let (status, body) := pageAnswer outcome
  { response :=
      { status := status
        contentType := some htmlType
        requestId := request.header? requestIdHeader
        body := if hasBody request.method status then body else "" }
    journal := outcome.journal
    measurements := outcome.measurements ++ [.request request.method status, .requestDuration] }

/-- **The answer to a request.** A target without a path is not a page. There is no answer where the
page never ends. -/
def respond (site : Site) (request : HttpRequest) (shared : Shared) :
    Option (Exchange × Shared) :=
  if request.uri.path.toList.head? = some '/' then
    (site.answer request.page {} shared).map fun (outcome, shared) =>
      (pageExchange request outcome, shared)
  else
    some ({ response := { status := 404, requestId := request.header? requestIdHeader } }, shared)

end Folio.Http
