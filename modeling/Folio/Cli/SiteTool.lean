import Folio.Cli.Help
import Folio.Cli.Report
import Folio.Site.Demonstration
import Folio.Site.Dispatch

/-!
# The site tool

* `siteTool`: its commands: serve the demonstration site, list its routes, and render one page.
* `routeLine`: a route in the list.
* **`runSiteTool`**: carry out a command line, given the files of a disk.
-/

namespace Folio.Cli

/-- The option that names a configuration. -/
def settingsOption (about : String) : OptionSpec :=
  { long := "config", short := some 'c', valueName := some "CONFIG", isPath := true
    about := about }

/-- **The site tool.** -/
def siteTool : ToolSpec :=
  { name := "quire"
    about := "Server-side page composition host"
    options := [settingsOption "TOML configuration file",
      { long := "templates", short := some 't', valueName := some "TEMPLATES", isPath := true,
        about := "Load templates from this folder instead of the embedded demo templates" }]
    commands := [
      { name := "serve", about := "Serve the site over HTTP" },
      { name := "routes", about := "List compiled routes in match order" },
      { name := "render", about := "Render one request path to stdout",
        argument := some { name := "PATH" } }] }

/-- A text with blanks before it, up to a width. -/
def padLeft (width : Nat) (text : String) : String :=
  String.ofList (List.replicate (width - text.length) ' ') ++ text

/-- A line of the list of routes. -/
def routeLine (priority id pattern typeName : String) : String :=
  padLeft 4 priority ++ " " ++ padLeft 4 id ++ "  " ++ padRight 48 pattern ++ " " ++ typeName

/-- The list of routes. -/
def routeLines {η : Type} (table : RouteTable η) : List String :=
  (table.routes.map fun route =>
    routeLine (toString route.priority) (toString route.id) route.pattern route.typeName) ++
    (table.fallback.map fun fallback => routeLine "-" "-" "(not found)" fallback.1).toList

/-- Who served a request, in words. -/
def dispatchLine : Option Dispatch → String
  | none => "no handler"
  | some dispatch =>
    dispatch.builder ++ " (route " ++ toString dispatch.routeId ++
      (if dispatch.fallback then ", not found" else "") ++ ")"

/-- The report of a page that was rendered. -/
def pageReport (outcome : Outcome (Option Dispatch)) : Report :=
  match outcome.ending with
  | .returned dispatch => { stdout := outcome.body, stderr := lines [dispatchLine dispatch] }
  | .failed e => .failed (.render e)
  | .panicked => .failed .aborted

/-- Render one page. -/
def renderPage (site : Site) (shared : Shared) (path : String) : Option Report :=
  (site.answer { path := path } {} shared).map fun (outcome, _) => pageReport outcome

/-- Carry out a command. -/
def runSiteCommand (disk : Disk) (invocation : Invocation) : Option Report :=
  match settingsFrom disk.readText (invocation.global.value? "config") with
  | .error e => some (.failed e)
  | .ok settings =>
    let store :=
      match invocation.global.value? "templates" with
      | some folder => TemplateStore.folder (some folder) disk
      | none => TemplateStore.ofTexts Demonstration.templates
    match (Demonstration.declaration settings store).assemble with
    | .error e => some (.failed (.site e))
    | .ok (site, shared) =>
      match invocation.command, invocation.words.argument with
      | "routes", _ => some { stdout := lines (routeLines site.routes) }
      | "render", some path => renderPage site shared path
      | _, _ => some (.failed .offline)

/-- The report of a command line that is not carried out. -/
def ToolSpec.refuse (tool : ToolSpec) : Refusal → Report
  | .usage => { ending := .usage }
  | .help topic => { stdout := tool.helpText topic }

/-- **Carry out a command line of the site tool.** There is no report where a page never ends. -/
def runSiteTool (disk : Disk) (words : List String) : Option Report :=
  match siteTool.parse words with
  | .error refusal => some (siteTool.refuse refusal)
  | .ok invocation => runSiteCommand disk invocation

end Folio.Cli
