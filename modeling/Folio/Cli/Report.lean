import Folio.Settings.Load

/-!
# Reports of commands

* `CommandError`: why a command failed, with the one word that names the failure.
* **`Report`**: what a command prints and how it ends.
* `settingsFrom`: the configuration of a file, or the default one.
-/

namespace Folio.Cli

/-- Why a command failed. -/
inductive CommandError
  | settings (error : SettingsError)
  | render (error : RenderError)
  /-- A file could not be read. -/
  | io (error : ReadError)
  /-- The model is no JSON text. -/
  | json
  /-- The site could not be assembled. -/
  | site (error : ConfigurationError)
  /-- The command needs a network, which it is not given. -/
  | offline
  /-- A page was given up. -/
  | aborted
  deriving DecidableEq, Inhabited, Repr

/-- The word that names a failure. -/
def CommandError.word : CommandError → String
  | .settings (.io _) => "Io"
  | .settings .parse => "Parse"
  | .settings (.validation _) => "Validation"
  | .render (.configuration _) => "Configuration"
  | .render error => error.cause
  | .io .malformedText => "Error"
  | .io .nulInName => "Error"
  | .io _ => "Os"
  | .json => "Error"
  | .site error => error.cause
  | .offline => "Os"
  | .aborted => "Panic"

/-- How a command ends. -/
inductive Ending
  | success
  /-- The command line is malformed. -/
  | usage
  | failure (error : CommandError)
  deriving DecidableEq, Inhabited, Repr

/-- The exit code of an ending. -/
def Ending.code : Ending → Nat
  | .success => 0
  | .usage => 2
  | .failure _ => 1

/-- **What a command prints and how it ends.** -/
structure Report where
  stdout : String := ""
  stderr : String := ""
  ending : Ending := .success
  deriving DecidableEq, Inhabited, Repr

/-- The report of a failure that printed nothing. -/
def Report.failed (error : CommandError) : Report :=
  { ending := .failure error }

/-- The configuration of a file, or the default one; `read` reads files. -/
def settingsFrom (read : String → Except ReadError String) (path : Option String) :
    Except CommandError SiteSettings :=
  match path with
  | none => .ok {}
  | some path => (SiteSettings.load (read path)).mapError .settings

/-- Lines, each with a line feed after it. -/
def lines (texts : List String) : String :=
  String.join (texts.map (· ++ "\n"))

end Folio.Cli
