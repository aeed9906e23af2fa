import Folio.Error
import Folio.Request.Basic
import Folio.Request.Model
import Folio.Settings.Basic
import Folio.Template.Store

/-!
# Output

Rendering writes into a sink, which may reject a write. On the side it keeps a journal and
measurements.

* **`Sink`**: where text is written.
* `Note`, `Measurement`: an entry of the journal, and what is counted.
* `Context`: what a request is rendered with.
-/

namespace Folio

/-- **Where text is written.** Writes are numbered from zero; a rejected one leaves no text. -/
structure Sink where
  text : String := ""
  /-- The most bytes that the text may have. -/
  capacity : Option Nat := none
  offered : Nat := 0
  /-- Is the write of this number taken, after this text? -/
  accepts : Nat → String → String → Bool := fun _ _ _ => true

/-- Is there room for one more text? -/
def Sink.hasRoom (sink : Sink) (more : String) : Bool :=
  sink.capacity.all fun capacity => sink.text.utf8ByteSize + more.utf8ByteSize ≤ capacity

/-- Offer a text to a sink. -/
def Sink.offer (sink : Sink) (text : String) : Bool × Sink :=
  let accepted := sink.hasRoom text && sink.accepts sink.offered sink.text text
  (accepted, { sink with
    text := if accepted then sink.text ++ text else sink.text
    offered := sink.offered + 1 })

/-- An entry of the journal. -/
inductive Note
  /-- A line written by a constructor or a hook. -/
  | line (text : String)
  /-- A tag without a value, and the record it was to be filled from. -/
  | unmatched (tag : String) (record : Option Model)

/-- Where a nested builder comes from. -/
inductive BuildSource
  | page
  | registry
  deriving DecidableEq, Inhabited, Repr

/-- What is counted. -/
inductive Measurement
  /-- No route matched a path; was there a fallback? -/
  | routeMiss (fallback : Bool)
  /-- A tag started the build of a page. -/
  | nestedBuild (source : BuildSource)
  /-- A request was answered. -/
  | request (method : String) (status : Nat)
  /-- The time to answer a request was taken. -/
  | requestDuration
  deriving DecidableEq, Inhabited, Repr

/-- The name of a source. -/
def BuildSource.name : BuildSource → String
  | .page => "page"
  | .registry => "registry"

/-- The name of a measurement and its labels. -/
def Measurement.text : Measurement → String
  | .routeMiss fallback =>
    "quire_route_misses_total\x7bfallback=" ++ (if fallback then "true" else "false") ++ "\x7d"
  | .nestedBuild source => "quire_nested_builds_total\x7bsource=" ++ source.name ++ "\x7d"
  | .request method status =>
    "quire_requests_total\x7bmethod=" ++ method ++ ",status=" ++ toString status ++ "\x7d"
  | .requestDuration => "quire_request_duration_seconds\x7b\x7d"

/-- What a request is rendered with. -/
structure Context where
  request : Request
  templates : TemplateStore
  /-- The folder where the search for templates begins. -/
  searchRoot : String
  textOptions : ScanOptions
  templateOptions : ScanOptions

end Folio
