import DocComments.Files.Reading
import DocComments.Json.Reader
import DocComments.Settings

/-!
# Reading settings

Settings are given by a JSON value, which has to be an object, or by a file in UTF-8 that
holds the text of one.
-/

namespace DocComments

/-- **Why there are no settings.** -/
inductive SettingsError where
  /-- The file cannot be read. -/
  | unreadable (f : FileFault)
  /-- The text of the file is no JSON text. -/
  | malformed (f : Json.Fault)
  /-- The text of the file is nested too deep to tell. -/
  | exhausted (f : Json.Fault)
  /-- The value is no object. -/
  | notObject
  /-- Members of the object are wrong. -/
  | invalid (problems : List SettingProblem)

namespace SettingsError

/-- The wording of an error. -/
def message : SettingsError → String
  | unreadable f => "Failed to load config file: " ++ f.message
  | malformed f => "Failed to load config file: " ++ f.message
  | exhausted f => f.message
  | notObject => "Configuration must be a JSON object"
  | invalid _ => "Invalid configuration"

/-- The wordings of what is wrong with single members. -/
def details : SettingsError → List Text.LooseString
  | invalid problems => problems.map SettingProblem.message
  | _ => []

end SettingsError

/-- **The settings that a JSON value gives.** -/
def Settings.ofJson : Json → Except SettingsError Settings
  | .object entries =>
      match Settings.ofMembers entries with
      | .ok s => .ok s
      | .error problems => .error (.invalid problems)
  | _ => .error .notObject

/-- **The settings that a file gives.** -/
def FileView.readSettings (files : FileView) (path : String) : Except SettingsError Settings :=
  match files.readUtf8 path with
  | .error f => .error (.unreadable f)
  | .ok text =>
      match Json.read text with
      | .error f => .error (if f.problem.isNesting then .exhausted f else .malformed f)
      | .ok value => Settings.ofJson value

end DocComments
