import ScriptRun.FileTree

/-!
# Refused settings

The causes for which settings are refused, and the reading of a settings file as text.
-/

namespace ScriptRun

/-- Why settings are refused. -/
inductive SettingsError where
  | notFound (path : String)
  /-- The file cannot be read, or is no text. -/
  | unreadable
  /-- The file is no TOML document, or not one with these settings. -/
  | malformed
  | invalidApi (field value : String)
  | invalidPath (path : String)
  deriving DecidableEq

namespace SettingsError

/-- The wording of a refusal whose wording is fixed. -/
def message : SettingsError → String
  | notFound path => "Configuration file not found: " ++ path
  | unreadable => "Failed to read configuration file"
  | malformed => "Invalid TOML syntax"
  | invalidApi field value =>
    "Invalid value for '" ++ field ++ "': '" ++ value ++ "' is not a valid server API name"
  | invalidPath path => "Invalid path: " ++ path

end SettingsError

/-- Read a settings file. It has to be text. -/
def FileTree.readText (files : FileTree) (path : String) : Except SettingsError String :=
  match files.read path with
  | .error .notFound => .error (.notFound path)
  | .error .unusable => .error .unreadable
  | .ok bytes =>
    match Text.decode? bytes with
    | some text => .ok text
    | none => .error .unreadable

end ScriptRun
