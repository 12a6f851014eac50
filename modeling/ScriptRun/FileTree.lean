import ScriptRun.Path.Native
import ScriptRun.Text.Utf8

/-!
# File trees

The files that settings are read from. A path is followed one name at a time from the root or,
if it is relative, from the working directory; `..` leads to the directory above, and whatever is
followed has to be a directory. There are no links.
-/

namespace ScriptRun

/-- A file or a directory. -/
inductive FileNode where
  | file (content : List UInt8)
  | directory (entries : List (String × FileNode))
  deriving Inhabited

/-- A directory tree and the directory to start from. -/
structure FileTree where
  root : FileNode
  cwd : List String

/-- Why a path leads nowhere. -/
inductive LookupError where
  | notFound
  /-- The path is malformed or too long, or goes through what is no directory. -/
  | unusable
  deriving DecidableEq

namespace FileNode

/-- How many bytes a name may have. -/
def longestName : Nat := 255

/-- What a directory holds under a name. -/
def child? : FileNode → String → Option FileNode
  | .file _, _ => none
  | .directory entries, name => (entries.find? (·.1 == name)).map (·.2)

/-- Whether this is a directory. -/
def isDirectory : FileNode → Bool
  | .file _ => false
  | .directory _ => true

/-- Follow one piece of a path from the last of the nodes come through. These are kept with their
names, the latest first. -/
def follow (nodes : List (String × FileNode)) (piece : List Char) :
    Except LookupError (List (String × FileNode)) :=
  match nodes with
  | [] => .error .notFound
  | here :: above =>
    if !here.2.isDirectory then .error .unusable
    else if piece = [] ∨ piece = ['.'] then .ok (here :: above)
    else if piece = ['.', '.'] then .ok (if above.isEmpty then [here] else above)
    else
      let name := String.ofList piece
      if longestName < name.utf8ByteSize then .error .unusable
      else
        match here.2.child? name with
        | some next => .ok ((name, next) :: here :: above)
        | none => .error .notFound

/-- Take away what some names lead to. -/
def erase : List String → FileNode → FileNode
  | [], here => here
  | _, .file content => .file content
  | [name], .directory entries => .directory (entries.filter (·.1 != name))
  | name :: rest, .directory entries =>
    .directory (entries.map fun e => if e.1 == name then (name, erase rest e.2) else e)

/-- Put a node at the place that some names lead to, making directories on the way. -/
def place (node : FileNode) : List String → FileNode → FileNode
  | [], _ => node
  | name :: rest, here =>
    let entries :=
      match here with
      | .directory entries => entries
      | .file _ => []
    let old := ((entries.find? (·.1 == name)).map (·.2)).getD (.directory [])
    .directory (entries.filter (·.1 != name) ++ [(name, place node rest old)])

end FileNode

namespace FileTree

/-- How many bytes a path may have. -/
def longestPath : Nat := 4095

/-- The pieces of a path, from the root on. -/
def pathPieces (t : FileTree) (path : String) : List (List Char) :=
  let ps := Path.pieces Path.isSlash path.toList
  if Path.isRooted path then ps.drop 1 else t.cwd.map String.toList ++ ps

/-- The nodes that a path comes through, the latest first. The root has no name. A path that is too
long is not even looked at. -/
def trail (t : FileTree) (path : String) : Except LookupError (List (String × FileNode)) :=
  if path.isEmpty then .error .notFound
  else if path.toList.contains '\x00' || longestPath < path.utf8ByteSize then .error .unusable
  else (t.pathPieces path).foldlM FileNode.follow [("", t.root)]

/-- What a path leads to. -/
def lookup (t : FileTree) (path : String) : Except LookupError FileNode :=
  match t.trail path with
  | .ok (here :: _) => .ok here.2
  | .ok [] => .error .notFound
  | .error e => .error e

/-- Whether a path leads to a file or a directory. -/
def contains (t : FileTree) (path : String) : Bool :=
  match t.lookup path with
  | .ok _ => true
  | .error _ => false

/-- Read a file. A directory is none. -/
def read (t : FileTree) (path : String) : Except LookupError (List UInt8) :=
  match t.lookup path with
  | .ok (.file content) => .ok content
  | .ok (.directory _) => .error .unusable
  | .error e => .error e

/-- Remove a file. A directory is none. -/
def remove (t : FileTree) (path : String) : Except LookupError FileTree :=
  match t.trail path with
  | .ok trail =>
    match trail with
    | (_, .file _) :: _ =>
      .ok { t with root := t.root.erase ((trail.map (·.1)).reverse.drop 1) }
    | _ => .error .unusable
  | .error e => .error e

end FileTree

end ScriptRun
