import Folio.Json.Value
import Folio.Scanner.Options

/-!
# Site configuration

Every setting has a default, so a configuration names only what differs. A section is read from an
object, whose unknown members are passed over, or from an array, whose items are the settings in
order.

* **`SiteSettings`** and its sections.
* `SiteSettings.ofValue?`: read a configuration; none if a setting has the wrong type.
* `SiteSettings.toValue`: a configuration with every setting spelled out.
* `ScannerSettings.options`: the scan options of a site.
* `logDirective`: the filter for log lines.
-/

namespace Folio

open Json (Value)

/-- HTTP hosting. -/
structure ServerSettings where
  bindAddress : String := "0.0.0.0:8080"
  requestTimeoutSecs : Nat := 30
  deriving DecidableEq, Inhabited, Repr

/-- Where the application is mounted. -/
structure AppSettings where
  virtualPath : String := "/"
  deriving DecidableEq, Inhabited, Repr

/-- Where templates are looked up. -/
structure TemplateSettings where
  /-- The folder that is searched when there is no `rootFolder`. -/
  searchRoot : String := "."
  /-- Takes the place of `searchRoot` in every look-up. -/
  rootFolder : Option String := none
  deriving DecidableEq, Inhabited, Repr

/-- How templates are scanned. -/
structure ScannerSettings where
  delimiter : Char := '@'
  rootedPrefix : String := "~/"
  stripLineBreaksInText : Bool := true
  stripLineBreaksInTemplates : Bool := false
  deriving DecidableEq, Inhabited, Repr

/-- How request paths are matched. -/
structure RoutingSettings where
  lowercasePaths : Bool := true
  deriving DecidableEq, Inhabited, Repr

/-- Logging and metrics. -/
structure ObservabilitySettings where
  logLevel : String := "info"
  metricsEnabled : Bool := false
  metricsAddress : String := "0.0.0.0:9090"
  deriving DecidableEq, Inhabited, Repr

/-- **The configuration of a site.** -/
structure SiteSettings where
  server : ServerSettings := {}
  app : AppSettings := {}
  templates : TemplateSettings := {}
  scanner : ScannerSettings := {}
  routing : RoutingSettings := {}
  observability : ObservabilitySettings := {}
  deriving DecidableEq, Inhabited, Repr

/-- The scan options of a site mounted at `virtualPath`. -/
def ScannerSettings.options (scanner : ScannerSettings) (virtualPath : String)
    (stripLineBreaks : Bool) : ScanOptions :=
  { delimiter := scanner.delimiter
    rootedPrefix := scanner.rootedPrefix
    appRoot := appRootAt virtualPath
    stripLineBreaks := stripLineBreaks }

/-- The scan options for inline text. -/
def SiteSettings.textOptions (settings : SiteSettings) : ScanOptions :=
  settings.scanner.options settings.app.virtualPath settings.scanner.stripLineBreaksInText

/-- The scan options for template files. -/
def SiteSettings.templateOptions (settings : SiteSettings) : ScanOptions :=
  settings.scanner.options settings.app.virtualPath settings.scanner.stripLineBreaksInTemplates

/-- The filter for log lines when the environment names none. -/
def logDirective (settings : ObservabilitySettings) : String :=
  "quire=" ++ settings.logLevel ++ ",tower_http=" ++ settings.logLevel

/-! ## Reading -/

/-- The settings of a section by name or by position. With `exact`, an array must not hold more
items than there are settings. -/
def settings? (exact : Bool) (names : List String) : Value → Option (List (Option Value))
  | .object members =>
    some (names.map fun name => (members.find? fun member => member.1 = name).map Prod.snd)
  | .array items =>
    if exact && items.length > names.length then none
    else some ((List.range names.length).map fun i => items[i]?)
  | _ => none

/-- A setting, or its default if it is absent. -/
def settingOr {α : Type} (decode : Value → Option α) (otherwise : α)
    (value : Option (Option Value)) : Option α :=
  match value.join with
  | none => some otherwise
  | some v => decode v

/-- A setting that is a text. -/
def asText? : Value → Option String
  | .string s => some s
  | _ => none

/-- A setting that is a single character. -/
def asChar? : Value → Option Char
  | .string s =>
    match s.toList with
    | [c] => some c
    | _ => none
  | _ => none

/-- A setting that is a truth value. -/
def asBool? : Value → Option Bool
  | .bool b => some b
  | _ => none

/-- A setting that is a natural number. -/
def asNat? : Value → Option Nat
  | .number (.integer (.ofNat n)) => some n
  | _ => none

/-- A setting that may be null. -/
def asOptional? {α : Type} (decode : Value → Option α) : Value → Option (Option α)
  | .null => some none
  | v => (decode v).map some

variable (exact : Bool)

def ServerSettings.ofValue? (v : Value) : Option ServerSettings := do
  let s ← settings? exact ["bind_address", "request_timeout_secs"] v
  return {
    bindAddress := ← settingOr asText? "0.0.0.0:8080" s[0]?
    requestTimeoutSecs := ← settingOr asNat? 30 s[1]? }

def AppSettings.ofValue? (v : Value) : Option AppSettings := do
  let s ← settings? exact ["virtual_path"] v
  return { virtualPath := ← settingOr asText? "/" s[0]? }

def TemplateSettings.ofValue? (v : Value) : Option TemplateSettings := do
  let s ← settings? exact ["search_root", "root_folder"] v
  return {
    searchRoot := ← settingOr asText? "." s[0]?
    rootFolder := ← settingOr (asOptional? asText?) none s[1]? }

def ScannerSettings.ofValue? (v : Value) : Option ScannerSettings := do
  let s ← settings? exact
    ["delimiter", "rooted_prefix", "strip_line_breaks_in_text", "strip_line_breaks_in_templates"] v
  return {
    delimiter := ← settingOr asChar? '@' s[0]?
    rootedPrefix := ← settingOr asText? "~/" s[1]?
    stripLineBreaksInText := ← settingOr asBool? true s[2]?
    stripLineBreaksInTemplates := ← settingOr asBool? false s[3]? }

def RoutingSettings.ofValue? (v : Value) : Option RoutingSettings := do
  let s ← settings? exact ["lowercase_paths"] v
  return { lowercasePaths := ← settingOr asBool? true s[0]? }

def ObservabilitySettings.ofValue? (v : Value) : Option ObservabilitySettings := do
  let s ← settings? exact ["log_level", "metrics_enabled", "metrics_address"] v
  return {
    logLevel := ← settingOr asText? "info" s[0]?
    metricsEnabled := ← settingOr asBool? false s[1]?
    metricsAddress := ← settingOr asText? "0.0.0.0:9090" s[2]? }

/-- **Read a configuration.** -/
def SiteSettings.ofValue? (v : Value) : Option SiteSettings := do
  let s ← settings? exact
    ["server", "app", "templates", "scanner", "routing", "observability"] v
  return {
    server := ← settingOr (ServerSettings.ofValue? exact) {} s[0]?
    app := ← settingOr (AppSettings.ofValue? exact) {} s[1]?
    templates := ← settingOr (TemplateSettings.ofValue? exact) {} s[2]?
    scanner := ← settingOr (ScannerSettings.ofValue? exact) {} s[3]?
    routing := ← settingOr (RoutingSettings.ofValue? exact) {} s[4]?
    observability := ← settingOr (ObservabilitySettings.ofValue? exact) {} s[5]? }

/-! ## Writing -/

/-- A configuration with every setting spelled out. -/
def SiteSettings.toValue (settings : SiteSettings) : Value :=
  .ofMembers [
    ("server", .ofMembers [
      ("bind_address", .string settings.server.bindAddress),
      ("request_timeout_secs", .number (.integer settings.server.requestTimeoutSecs))]),
    ("app", .ofMembers [("virtual_path", .string settings.app.virtualPath)]),
    ("templates", .ofMembers [
      ("search_root", .string settings.templates.searchRoot),
      ("root_folder", settings.templates.rootFolder.elim .null .string)]),
    ("scanner", .ofMembers [
      ("delimiter", .string (String.singleton settings.scanner.delimiter)),
      ("rooted_prefix", .string settings.scanner.rootedPrefix),
      ("strip_line_breaks_in_text", .bool settings.scanner.stripLineBreaksInText),
      ("strip_line_breaks_in_templates", .bool settings.scanner.stripLineBreaksInTemplates)]),
    ("routing", .ofMembers [("lowercase_paths", .bool settings.routing.lowercasePaths)]),
    ("observability", .ofMembers [
      ("log_level", .string settings.observability.logLevel),
      ("metrics_enabled", .bool settings.observability.metricsEnabled),
      ("metrics_address", .string settings.observability.metricsAddress)])]

end Folio
