import ScriptRun.Path.Native
import ScriptRun.Text.Quoted

/-!
# Options of a run

The directories a run looks for scripts in, and the name of the interface it serves.
-/

namespace ScriptRun

/-- The interface that is served when nothing else is said. -/
def defaultServerApi : String := "cli"

/-- The options of a run. -/
structure Options where
  /-- The directory that scripts are registered below. -/
  root : String
  /-- The directories that relative inclusions are looked for in, in order. -/
  includePaths : List String
  workingDir : String
  /-- The value of the constant `SERVER_API`. -/
  serverApi : String
  deriving DecidableEq

namespace Options

/-- Everything at the root of the file system. -/
def standard : Options :=
  { root := "/", includePaths := [], workingDir := "/", serverApi := defaultServerApi }

/-- A root, at which the run also works. -/
def atRoot (root : String) : Options := { standard with root, workingDir := root }

/-- Add an include path behind the others. -/
def addIncludePath (o : Options) (path : String) : Options :=
  { o with includePaths := o.includePaths ++ [path] }

/-- Work elsewhere. -/
def workIn (o : Options) (dir : String) : Options := { o with workingDir := dir }

/-- Serve another interface. -/
def serve (o : Options) (api : String) : Options := { o with serverApi := api }

/-- Whether two options say the same, however their paths are spelled. -/
def same (a b : Options) : Bool :=
  Path.samePath a.root b.root && Path.sameList a.includePaths b.includePaths
    && Path.samePath a.workingDir b.workingDir && a.serverApi == b.serverApi

/-- Options as they are shown for inspection. -/
def shown (o : Options) : String :=
  "RuntimeOptions \x7b root: " ++ Text.quoted o.root
    ++ ", include_paths: " ++ Text.bracketed (o.includePaths.map Text.quoted)
    ++ ", working_dir: " ++ Text.quoted o.workingDir
    ++ ", server_api: " ++ Text.quoted o.serverApi ++ " \x7d"

end Options

end ScriptRun
