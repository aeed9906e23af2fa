import Folio.Http.Query
import Folio.Http.Uri
import Folio.Request.Basic

/-!
# HTTP messages

* `isTokenChar`: the characters of methods and of the names of headers.
* **`HttpRequest.parse?`**: the request of a method, a target and headers, if they are well formed.
* `HttpRequest.header?`: the first value of a header; the case of its name makes no difference.
* `HttpRequest.page`: what a page is composed for.
* `HttpResponse`: an answer.
-/

namespace Folio.Http

/-- The characters of tokens. -/
def isTokenChar (c : Char) : Bool :=
  c.isAlphanum || "!#$%&'*+-.^_`|~".toList.contains c

/-- Is the text a token? -/
def isToken (text : String) : Bool :=
  !text.isEmpty && text.toList.all isTokenChar

/-- The characters of the values of headers: no control characters but the tab. -/
def isHeaderValueChar (c : Char) : Bool :=
  c == '\t' || (0x20 ≤ c.toNat && c.toNat != 0x7F)

/-- A request. -/
structure HttpRequest where
  method : String
  uri : Uri
  headers : List (String × String) := []
  deriving DecidableEq, Inhabited, Repr

/-- The name of a header has at most this many bytes. -/
def maxHeaderNameBytes : Nat := 65535

/-- Is the header well formed? -/
def isHeader (header : String × String) : Bool :=
  isToken header.1 && header.1.utf8ByteSize ≤ maxHeaderNameBytes &&
    header.2.toList.all isHeaderValueChar

/-- **The request of a method, a target and headers.** -/
def HttpRequest.parse? (method target : String) (headers : List (String × String)) :
    Option HttpRequest :=
  if isToken method && headers.all isHeader then
    (Uri.parse? target).map fun uri => { method := method, uri := uri, headers := headers }
  else none

/-- The first value of a header. -/
def HttpRequest.header? (request : HttpRequest) (name : String) : Option String :=
  (request.headers.find? fun header => header.1.toLower = name.toLower).map Prod.snd

/-- Does the text consist of visible characters of ASCII, blanks and tabs? -/
def isPlainText (text : String) : Bool :=
  text.toList.all fun c => c == '\t' || (0x20 ≤ c.toNat && c.toNat < 0x7F)

/-- What a page is composed for. -/
def HttpRequest.page (request : HttpRequest) : Request :=
  { method := request.method
    path := request.uri.path
    host := (request.header? "host").filter isPlainText
    query := parseQuery (request.uri.query.getD "") }

/-- An answer. -/
structure HttpResponse where
  status : Nat
  contentType : Option String := none
  /-- The number that the request came with; none if the answer carries a new one. -/
  requestId : Option String := none
  body : String := ""
  deriving DecidableEq, Inhabited, Repr

end Folio.Http
