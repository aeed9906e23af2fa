/-!
# Requests

* **`Request`**: what a page is composed for.
* `Request.query?`: the first value of a query parameter.
-/

namespace Folio

/-- **What a page is composed for.** The query is a list of pairs; a name may stand in it more than
once. -/
structure Request where
  method : String := "GET"
  path : String := "/"
  host : Option String := none
  query : List (String × String) := []
  deriving DecidableEq, Inhabited, Repr

/-- The first value of a query parameter. -/
def Request.query? (request : Request) (name : String) : Option String :=
  (request.query.find? fun pair => pair.1 = name).map Prod.snd

end Folio
