import Folio.Settings.Basic
import Folio.Settings.SocketAddress
import Folio.Text.Blank
import Folio.Text.Quoted

/-!
# Validation

Settings of the right type may still make no sense together. All problems are reported, in the
order of the checks.

* `SettingsProblem`: what may be wrong, with its wording.
* **`SiteSettings.problems`**: everything that is wrong with a configuration.
-/

namespace Folio

/-- A problem of a configuration whose settings have the right types. -/
inductive SettingsProblem
  | whitespaceDelimiter (delimiter : Char)
  | emptyRootedPrefix
  | prefixContainsDelimiter (rootedPrefix : String) (delimiter : Char)
  | relativeVirtualPath (path : String)
  | invalidAddress (field value : String)
  | zeroTimeout
  deriving DecidableEq, Inhabited, Repr

/-- The name of a problem. -/
def SettingsProblem.name : SettingsProblem → String
  | .whitespaceDelimiter _ => "WhitespaceDelimiter"
  | .emptyRootedPrefix => "EmptyRootedPrefix"
  | .prefixContainsDelimiter .. => "PrefixContainsDelimiter"
  | .relativeVirtualPath _ => "RelativeVirtualPath"
  | .invalidAddress .. => "InvalidAddress"
  | .zeroTimeout => "ZeroTimeout"

/-- The wording of a problem. -/
def SettingsProblem.message : SettingsProblem → String
  | .whitespaceDelimiter delimiter =>
    "scanner.delimiter " ++ quoteChar delimiter ++ " can not be whitespace or a line break"
  | .emptyRootedPrefix => "scanner.rooted_prefix can not be empty"
  | .prefixContainsDelimiter rootedPrefix delimiter =>
    "scanner.rooted_prefix " ++ quoteText rootedPrefix ++ " can not contain the delimiter " ++
      quoteChar delimiter
  | .relativeVirtualPath path => "app.virtual_path " ++ quoteText path ++ " must start with '/'"
  | .invalidAddress field value =>
    field ++ " " ++ quoteText value ++ " is not a valid socket address"
  | .zeroTimeout => "server.request_timeout_secs must be greater than zero"

/-- The problems of the scanner's settings. -/
def ScannerSettings.problems (scanner : ScannerSettings) : List SettingsProblem :=
  (if isBlank scanner.delimiter then [.whitespaceDelimiter scanner.delimiter] else []) ++
    if scanner.rootedPrefix.isEmpty then [.emptyRootedPrefix]
    else if scanner.rootedPrefix.toList.contains scanner.delimiter then
      [.prefixContainsDelimiter scanner.rootedPrefix scanner.delimiter]
    else []

/-- The problem of an address, if it has one. -/
def addressProblems (field value : String) : List SettingsProblem :=
  if SocketAddress.isSocketAddress value then [] else [.invalidAddress field value]

/-- **Everything that is wrong with a configuration.** -/
def SiteSettings.problems (settings : SiteSettings) : List SettingsProblem :=
  settings.scanner.problems ++
    (if settings.app.virtualPath.toList.head? = some '/' then []
      else [.relativeVirtualPath settings.app.virtualPath]) ++
    addressProblems "server.bind_address" settings.server.bindAddress ++
    (if settings.observability.metricsEnabled then
      addressProblems "observability.metrics_address" settings.observability.metricsAddress
    else []) ++
    if settings.server.requestTimeoutSecs = 0 then [.zeroTimeout] else []

end Folio
