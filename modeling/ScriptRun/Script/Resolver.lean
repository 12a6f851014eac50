import ScriptRun.Path.Native
import ScriptRun.Script.Catalog

/-!
# From a path to a script

An absolute path leads to a script if it lies below the root and the rest of it is the script's
path. A relative path is tried from one base after another: the directory of the script that asks,
the include paths, the working directory. Whether a base leads anywhere is a question about
segments, never about the text: what only begins like the root does not lie below it.
-/

namespace ScriptRun

variable {κ : Type}

/-- Where relative paths are looked for. -/
structure Resolver where
  root : String
  includePaths : List String
  workingDir : String

namespace Resolver

/-- A resolver for some settings. A relative working directory is taken from the root, relative
include paths from the working directory. -/
def ofSettings (root : String) (includePaths : List String) (workingDir : String) : Resolver :=
  let workingDir := Path.onto root workingDir
  { root, workingDir, includePaths := includePaths.map (Path.onto workingDir) }

/-- What is left of the segments `path` behind the segments `base`. -/
def behind? : List String → List String → Option (List String)
  | [], path => some path
  | _ :: _, [] => none
  | b :: base, p :: path => if b = p then behind? base path else none

/-- The path from the root to an absolute path, if that lies below the root. -/
def fromRoot? (r : Resolver) (path : String) : Option String :=
  (behind? (Path.segments r.root) (Path.segments path)).map Path.ofSegments

/-- The script that an absolute path leads to. -/
def locate? (r : Resolver) (t : ScriptCatalog κ) (path : String) : Option (ScriptUnit κ) :=
  (r.fromRoot? path).bind t.lookup?

/-- The bases that relative paths are tried from, in order. -/
def bases (r : Resolver) (dir : Option String) : List String :=
  (dir.map (Path.onto r.root)).toList ++ r.includePaths ++ [r.workingDir]

/-- The script that a path leads to, asked for from directory `dir`. -/
def resolve? (r : Resolver) (t : ScriptCatalog κ) (path : String) (dir : Option String) :
    Option (ScriptUnit κ) :=
  if Path.isAbsolute path then r.locate? t path
  else (r.bases dir).findSome? fun base => r.locate? t (Path.under base path)

/-- Where in the file system a path that leads to no script would be. Only the first base is
taken. -/
def rawPath (r : Resolver) (path : String) (dir : Option String) : String :=
  if Path.isAbsolute path then path
  else Path.join ((dir.map (Path.onto r.root)).getD r.workingDir) path

end Resolver

end ScriptRun
