import Folio.Error
import Folio.Settings.Problems
import Folio.Text.Utf8
import Folio.Toml.Reader

/-!
# Loading configurations

* `SettingsError`: why there is no configuration.
* **`SiteSettings.parse`**: the configuration of a TOML text, if it passes validation.
* `SiteSettings.load`: the configuration of a file's bytes.
-/

namespace Folio

/-- Why a configuration could not be loaded. -/
inductive SettingsError
  | io (error : ReadError)
  /-- The text is no TOML, or a setting has the wrong type. -/
  | parse
  | validation (problems : List SettingsProblem)
  deriving DecidableEq, Inhabited, Repr

/-- The wording of a failure to load, as far as it is this library's own. -/
def SettingsError.message : SettingsError → String
  | .io error => "IO error: " ++ error.message
  | .parse => "Parse error: "
  | .validation problems =>
    "Validation failed: " ++ ", ".intercalate (problems.map SettingsProblem.message)

/-- **The configuration of a TOML text.** -/
def SiteSettings.parse (text : String) : Except SettingsError SiteSettings :=
  match (Toml.parse? text).bind (SiteSettings.ofValue? false) with
  | none => .error .parse
  | some settings =>
    match settings.problems with
    | [] => .ok settings
    | problems => .error (.validation problems)

/-- The configuration of a file, given what reading the file gave. -/
def SiteSettings.load (content : Except ReadError String) : Except SettingsError SiteSettings :=
  match content with
  | .error e => .error (.io e)
  | .ok text => SiteSettings.parse text

end Folio
