import ScriptRun.Settings.Configuration

/-!
# Finding settings

The project of a directory is found by going up from it to the first directory with a project file.
The environment is laid over the settings of the project, and what it sets is checked like they
are. Improper settings of a project or the environment are refused; of two faults the one in the
project file comes first. Only a server interface in the environment that is no text at all is
passed over.
-/

namespace ScriptRun

/-- The environment variables that are heeded. Those that hold paths hold text, as all paths are. -/
structure Environment where
  /-- The server interface, which may be set to any bytes. -/
  serverApi : Option (List UInt8)
  root : Option String
  /-- Include paths with colons between them. -/
  includePath : Option String

namespace Environment

/-- The server interface that is set. Bytes that are no text count as if nothing were set. -/
def serverApi? (env : Environment) : Option String := env.serverApi.bind Text.decode?

/-- The paths in a text with colons between them. Empty ones do not count. -/
def splitPaths (s : String) : List String :=
  ((Path.pieces (· == ':') s.toList).filter (!·.isEmpty)).map String.ofList

/-- Lay the environment over the settings of a project: the interface, then the root, then the
include paths. -/
def applyTo (env : Environment) (c : ProjectSettings) : Except SettingsError ProjectSettings := do
  let c ←
    match env.serverApi? with
    | none => pure c
    | some api => do
      checkApiName "HEARTH_SERVER_API" api
      pure { c with run := some { c.run.getD .empty with serverApi := some api } }
  let c ←
    match env.root with
    | none => pure c
    | some root => do
      if root = "" then throw (.invalidPath "")
      pure { c with run := some { c.run.getD .empty with root := some root } }
  match env.includePath with
  | none => pure c
  | some paths => pure { c with search := some ⟨splitPaths paths⟩ }

end Environment

namespace Configuration

/-- The nearest directory with a project file, among a directory and those above it. -/
def projectRoot? (files : FileTree) (dir : String) : Option String :=
  (Path.ancestors dir).find? fun d => files.contains (Path.join d projectFile)

/-- The settings of the project that a directory belongs to, if it belongs to one. -/
def loadProject (files : FileTree) : Option String → Except SettingsError ProjectSettings
  | some root => ProjectSettings.load files (Path.join root projectFile)
  | none => .ok .empty

/-- The configuration of a directory. -/
def forDirectory (files : FileTree) (env : Environment) (userFile dir : String) :
    Except SettingsError Configuration := do
  let projectRoot := projectRoot? files dir
  let project ← loadProject files projectRoot
  let project ← env.applyTo project
  pure { project, user := .loadOrEmpty files userFile, projectRoot }

/-- The configuration with a project file given. -/
def forFile (files : FileTree) (env : Environment) (userFile file : String) :
    Except SettingsError Configuration := do
  let project ← ProjectSettings.load files file
  let project ← env.applyTo project
  pure { project, user := .loadOrEmpty files userFile, projectRoot := Path.parent? file }

end Configuration

end ScriptRun
