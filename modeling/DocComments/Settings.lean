import DocComments.Json

/-!
# Settings

The settings of a scan, and how they are read from the members of a JSON object.  Every
member has to be a setting, with a value of the type that the setting has; all members that
are not are reported together, in order (`Settings.ofMembers`).  What no member says keeps
its default.
-/

namespace DocComments

open Text

/-- **The settings of a scan.** -/
structure Settings where
  /-- Malformed code behind a doc-comment is recorded as unrecognised. -/
  recover : Bool := false
  /-- The endings of the names of files that are found below a directory. -/
  extensions : List LooseString := [".js"]
  /-- The name of the encoding of the sources. -/
  encoding : LooseString := "utf-8"
  /-- By how many blanks each level of the results is indented; `none` for one line. -/
  indent : Option Int := some 2
  deriving DecidableEq, Repr

/-- A setting. -/
inductive SettingKey where
  | recover
  | extensions
  | encoding
  | indent
  deriving DecidableEq, Repr

namespace SettingKey

/-- The name of a setting. -/
def name : SettingKey → String
  | recover => "recover"
  | extensions => "extensions"
  | encoding => "encoding"
  | indent => "indent"

/-- All settings. -/
def all : List SettingKey := [recover, extensions, encoding, indent]

/-- The setting of a given name. -/
def ofName? (name : LooseString) : Option SettingKey :=
  all.find? fun key => LooseString.ofString key.name = name

/-- What the values of a setting have to be. -/
def requirement : SettingKey → String
  | recover => "a boolean"
  | extensions => "a list of strings"
  | encoding => "a string"
  | indent => "an integer or null"

end SettingKey

/-- The texts of a list of JSON strings, if it is one. -/
def Json.texts? : List Json → Option (List LooseString)
  | [] => some []
  | .string s :: more => (texts? more).map (s :: ·)
  | _ :: _ => none

/-- **What is wrong with one member.** -/
inductive SettingProblem where
  /-- There is no setting of this name. -/
  | unknownKey (name : LooseString)
  /-- The value is not of the type that the setting has. -/
  | wrongType (key : SettingKey) (value : Json)

/-- The wording of a problem. -/
def SettingProblem.message : SettingProblem → LooseString
  | unknownKey name => "unknown key '" ++ name ++ "'"
  | wrongType key value => s!"'{key.name}' must be {key.requirement}, got {value.display}"

namespace Settings

/-- Gives a setting a value, if the value has the right type.  The constants true and false
are not numbers here. -/
def set? (s : Settings) (key : SettingKey) (value : Json) : Option Settings :=
  match key, value with
  | .recover, .bool b => some { s with recover := b }
  | .extensions, .array items => (Json.texts? items).map fun texts => { s with extensions := texts }
  | .encoding, .string name => some { s with encoding := name }
  | .indent, .int n => some { s with indent := some n }
  | .indent, .null => some { s with indent := none }
  | _, _ => none

/-- Gives the setting that a member names the member's value. -/
def member (s : Settings) (name : LooseString) (value : Json) : Except SettingProblem Settings :=
  match SettingKey.ofName? name with
  | none => .error (.unknownKey name)
  | some key =>
      match s.set? key value with
      | some s' => .ok s'
      | none => .error (.wrongType key value)

/-- Takes in members one after the other; the problems are collected in order, and the
members that have one are passed over. -/
def members (s : Settings) : List (LooseString × Json) → Settings × List SettingProblem
  | [] => (s, [])
  | (name, value) :: more =>
      match s.member name value with
      | .ok s' => members s' more
      | .error problem =>
          let rest := members s more
          (rest.1, problem :: rest.2)

/-- **The settings that the members of an object give**, or all problems with them. -/
def ofMembers (entries : List (LooseString × Json)) : Except (List SettingProblem) Settings :=
  match ({} : Settings).members entries with
  | (s, []) => .ok s
  | (_, problems) => .error problems

/-- How messages show the settings. -/
def display (s : Settings) : String :=
  let recover := (Json.bool s.recover).display
  let extensions := (Json.array (s.extensions.map .string)).display
  let encoding := s.encoding.quoted
  let indent := (s.indent.map toString).getD "None"
  s!"ScanConfig(recover={recover}, extensions={extensions}, encoding={encoding}, indent={indent})"

end Settings

end DocComments
