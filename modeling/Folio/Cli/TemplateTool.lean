import Folio.Cli.SiteTool
import Folio.Json.Reader

/-!
# The template tool

* `templateTool`: its commands: list the tags of a template, and fill a template from a model.
* `listTags`, `bindModel`: the two commands.
* **`runTemplateTool`**: carry out a command line, given the files of a disk.
-/

namespace Folio.Cli

open Json (Value)

/-- **The template tool.** -/
def templateTool : ToolSpec :=
  let template : ArgumentSpec := { name := "TEMPLATE", isPath := true }
  { name := "quire-cli"
    about := "Inspect and bind quire templates offline"
    options := [settingsOption "TOML configuration file (scanner settings, virtual path)"]
    commands := [
      { name := "tags", about := "List the tags a template contains, in order",
        argument := some template },
      { name := "bind", about := "Bind a JSON model into a template and print the result",
        argument := some template,
        options := [
          { long := "model", short := some 'm', valueName := some "MODEL", required := true,
            about := "JSON object whose properties fill the tags" },
          { long := "missing",
            about := "Report tags the model has no value for on stderr" }] }] }

/-- Collects the names of tags, latest first. -/
def collectTags : Offer RenderError (List String) := fun event tags =>
  match event with
  | .literal _ => (.ok (), tags)
  | .tag name => (.ok (), name :: tags)

/-- The tags of a template up to its end or to what can not be read. -/
def tagsOf (settings : SiteSettings) (name : String) (signals : List Signal) :
    Except RenderError Unit × List String :=
  let (outcome, tags) :=
    scanStream (.templateRead name) signals settings.templateOptions collectTags []
  (outcome, tags.reverse)

/-- The stream of an opened file. -/
def streamOf : Except ReadError (List UInt8) → List Signal
  | .ok bytes => Signal.ofBytes bytes
  | .error e => [.fault e]

/-- **List the tags of a template.** What was listed before a failure stays. -/
def listTags (disk : Disk) (settings : SiteSettings) (template : String) : Report :=
  match disk.openFile template with
  | .error e => .failed (.io e)
  | .ok content =>
    let (outcome, tags) := tagsOf settings template (streamOf content)
    { stdout := lines tags
      ending :=
        match outcome with
        | .ok () => .success
        | .error e => .failure (.render e) }

/-- The site of one template. -/
def templateSite (settings : SiteSettings) (name text : String) : SiteDeclaration :=
  { settings := settings, templates := TemplateStore.ofTexts [(name, text)] }

/-- The tags that the journal has no value for. -/
def missingTags (journal : List Note) : List String :=
  journal.filterMap fun note =>
    match note with
    | .line _ => none
    | .unmatched tag _ => some tag

/-- Fill a template from a model and note the tags without a value. -/
def bindNoting (context : Context) (name : String) (model : Model) : Render Unit :=
  Render.fillTemplate context name model fun tag => Render.note (.unmatched tag none)

/-- Fill the text of a template from a model. -/
def bindModel (settings : SiteSettings) (name text : String) (model : Model) (missing : Bool) :
    Report :=
  match (templateSite settings name text).assemble with
  | .error e => .failed (.site e)
  | .ok (site, shared) =>
    match (bindNoting (site.context {}) name model).outcome? {} shared with
    | none => .failed .aborted
    | some (outcome, _) =>
      let report := if missing then (missingTags outcome.journal).map ("missing: " ++ ·) else []
      match outcome.ending with
      | .returned () => { stdout := outcome.body, stderr := lines report }
      | .failed e => { stderr := lines report, ending := .failure (.render e) }
      | .panicked => .failed .aborted

/-- **Fill a template from a model.** The model is read first. -/
def bindFile (disk : Disk) (settings : SiteSettings) (template model : String) (missing : Bool) :
    Report :=
  match Value.parse? model with
  | none => .failed .json
  | some value =>
    match disk.readText template with
    | .error e => .failed (.io e)
    | .ok text => bindModel settings template text { value := value } missing

/-- Carry out a command. -/
def runTemplateCommand (disk : Disk) (invocation : Invocation) : Report :=
  match settingsFrom disk.readText (invocation.global.value? "config") with
  | .error e => .failed e
  | .ok settings =>
    let words := invocation.words
    match invocation.command, words.argument, words.value? "model" with
    | "tags", some template, _ => listTags disk settings template
    | "bind", some template, some model =>
      bindFile disk settings template model (words.value? "missing").isSome
    | _, _, _ => { ending := .usage }

/-- **Carry out a command line of the template tool.** -/
def runTemplateTool (disk : Disk) (words : List String) : Report :=
  match templateTool.parse words with
  | .error refusal => templateTool.refuse refusal
  | .ok invocation => runTemplateCommand disk invocation

end Folio.Cli
