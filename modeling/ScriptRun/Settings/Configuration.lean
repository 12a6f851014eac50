import ScriptRun.Settings.Layers
import ScriptRun.Settings.Options

/-!
# What settings are in force

A configuration joins the settings of a project with those of a user. What the project sets
outranks what the user sets, and what neither sets has a default. Paths of a project are taken from
its directory, those of a user as they are.
-/

namespace ScriptRun

/-- The settings that apply in some place. -/
structure Configuration where
  /-- The settings of the project, with the environment laid over them. -/
  project : ProjectSettings
  user : UserSettings
  /-- The directory of the project file, if there is one. -/
  projectRoot : Option String

namespace Configuration

/-- Whether there is a project. -/
def isProject (c : Configuration) : Bool := c.projectRoot.isSome

/-- The server interface. -/
def serverApi (c : Configuration) : String :=
  (c.project.serverApi?.or c.user.serverApi?).getD defaultServerApi

/-- A path of the project. -/
def fromProject (c : Configuration) (path : String) : String :=
  match c.projectRoot with
  | some base => Path.join base path
  | none => path

/-- The script root: the one that is set, else the directory of the project. -/
def scriptRoot? (c : Configuration) : Option String :=
  match c.project.root? with
  | some root => some (c.fromProject root)
  | none => c.projectRoot

/-- The working directory: the one that is set, else the script root. -/
def workingDir? (c : Configuration) : Option String :=
  match c.project.workingDir? with
  | some dir => some (c.fromProject dir)
  | none => c.scriptRoot?

/-- The include paths: those of the project, then those of the user. -/
def includePaths (c : Configuration) : List String :=
  c.project.includePaths.map c.fromProject ++ c.user.includePaths

end Configuration

/-- The options of a run under some configuration. Without a script root it takes place at the root
of the file system. -/
def Options.ofConfiguration (c : Configuration) : Options :=
  let root := c.scriptRoot?.getD Options.standard.root
  { root
    includePaths := c.includePaths
    workingDir := c.workingDir?.getD root
    serverApi := c.serverApi }

end ScriptRun
