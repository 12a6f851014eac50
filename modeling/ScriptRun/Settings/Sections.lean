import ScriptRun.Settings.Error
import ScriptRun.Toml.Reader

/-!
# Sections of settings

A settings file is a TOML document of sections. Those of a project are `[runtime]`, with the script
root, the working directory and the server interface, and `[include]`, with the include paths.
The one of a user is `[defaults]`, with include paths and a server interface.

Everything in a section may be left out, and nothing else may be put in. A section may also be
written as a list of its settings in their order.
-/

namespace ScriptRun

/-! ### Reading fields -/

namespace Toml

/-- A text. -/
def asText? : Toml → Option String
  | text s => some s
  | _ => none

/-- A list of texts. -/
def asTexts? : Toml → Option (List String)
  | list items => items.mapM asText?
  | _ => none

/-- Whether a table has no keys but these. -/
def onlyKeys (keys : List String) (es : Entries) : Bool := es.all fun e => keys.contains e.1

/-- Read what may be left out. -/
def field? {α : Type} (read : Toml → Option α) (es : Entries) (key : String) : Option (Option α) :=
  match find? es key with
  | none => some none
  | some v => (read v).map some

end Toml

/-! ### Names of server interfaces -/

/-- Whether a server interface has a proper name: ASCII letters, digits, `-` and `_`, at least one
of them. -/
def isApiName (name : String) : Bool :=
  !name.isEmpty && name.toList.all fun c => c.isAlphanum || c == '-' || c == '_'

/-- Refuse an improper name of a server interface. -/
def checkApiName (field name : String) : Except SettingsError Unit :=
  if isApiName name then .ok () else .error (.invalidApi field name)

/-! ### The sections of a project -/

/-- The section `[runtime]`. -/
structure RunSection where
  root : Option String
  workingDir : Option String
  serverApi : Option String
  deriving DecidableEq

namespace RunSection

/-- The section without settings. -/
def empty : RunSection := ⟨none, none, none⟩

/-- Read the section. A list gives all of its settings. -/
def ofToml? : Toml → Option RunSection
  | .table _ es =>
    if Toml.onlyKeys ["root", "working-dir", "server-api"] es then do
      let root ← Toml.field? Toml.asText? es "root"
      let workingDir ← Toml.field? Toml.asText? es "working-dir"
      let serverApi ← Toml.field? Toml.asText? es "server-api"
      pure { root, workingDir, serverApi }
    else none
  | .list (a :: b :: c :: _) => do
    let root ← a.asText?
    let workingDir ← b.asText?
    let serverApi ← c.asText?
    pure { root := some root, workingDir := some workingDir, serverApi := some serverApi }
  | _ => none

/-- Refuse an improper server interface or an empty root, in this order. -/
def check (s : RunSection) : Except SettingsError Unit := do
  if let some api := s.serverApi then checkApiName "runtime.server-api" api
  if s.root = some "" then throw (.invalidPath "")

/-- Whether two sections say the same, however their paths are spelled. -/
def same (a b : RunSection) : Bool :=
  Path.sameList a.root.toList b.root.toList && Path.sameList a.workingDir.toList b.workingDir.toList
    && a.serverApi == b.serverApi

end RunSection

/-- The section `[include]`. -/
structure SearchSection where
  paths : List String
  deriving DecidableEq

/-- Read the section. -/
def SearchSection.ofToml? : Toml → Option SearchSection
  | .table _ es =>
    if Toml.onlyKeys ["paths"] es then do
      let paths ← Toml.field? Toml.asTexts? es "paths"
      pure ⟨paths.getD []⟩
    else none
  | .list [] => some ⟨[]⟩
  | .list (a :: _) => a.asTexts?.map .mk
  | _ => none

/-! ### The section of a user -/

/-- The section `[defaults]`. -/
structure UserSection where
  includePaths : List String
  serverApi : Option String
  deriving DecidableEq

/-- Read the section. A list gives both of its settings. -/
def UserSection.ofToml? : Toml → Option UserSection
  | .table _ es =>
    if Toml.onlyKeys ["include-paths", "server-api"] es then do
      let includePaths ← Toml.field? Toml.asTexts? es "include-paths"
      let serverApi ← Toml.field? Toml.asText? es "server-api"
      pure { includePaths := includePaths.getD [], serverApi }
    else none
  | .list (a :: b :: _) => do
    let includePaths ← a.asTexts?
    let serverApi ← b.asText?
    pure { includePaths, serverApi := some serverApi }
  | _ => none

end ScriptRun
