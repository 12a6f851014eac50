import ScriptRun.Path.Lexical

/-!
# File-system paths

Paths that are handed to a file system. Here only `/` separates, `..` is kept, since what it leads
to is for the file system to say, and the text of a path is kept as it was given. Two spellings
name the same path when their components agree. Every path is a text: files whose names are no text
do not occur.
-/

namespace ScriptRun.Path

/-- A component of a file-system path. -/
inductive Component where
  | root
  | here
  | up
  | name (s : String)
  deriving DecidableEq

/-- Whether a character separates the components of a file-system path. -/
def isSlash (c : Char) : Bool := c == '/'

/-- Whether a file-system path starts at the root. -/
def isRooted (path : String) : Bool := path.toList.head? == some '/'

/-- The component that a piece stands for. An empty piece and a `.` stand for none. -/
def component? (piece : List Char) : Option Component :=
  if piece = [] ∨ piece = ['.'] then none
  else if piece = ['.', '.'] then some .up
  else some (.name (String.ofList piece))

/-- The components of a file-system path. Only a `.` that begins a relative path counts. -/
def components (path : String) : List Component :=
  let ps := pieces isSlash path.toList
  let tail := ps.filterMap component?
  if isRooted path then .root :: tail
  else if ps.head? = some ['.'] then .here :: tail
  else tail

/-- Whether two spellings name the same file-system path. -/
def samePath (a b : String) : Bool := components a == components b

theorem samePath_iff {a b : String} : samePath a b = true ↔ components a = components b :=
  beq_iff_eq

theorem samePath_comm (a b : String) : samePath a b = samePath b a := BEq.comm

theorem samePath_trans {a b c : String} (hab : samePath a b = true) (hbc : samePath b c = true) :
    samePath a c = true :=
  samePath_iff.2 ((samePath_iff.1 hab).trans (samePath_iff.1 hbc))

/-- Whether two lists name the same file-system paths in the same order. -/
def sameList : List String → List String → Bool
  | [], [] => true
  | a :: as, b :: bs => samePath a b && sameList as bs
  | _, _ => false

/-- `path` taken from `base`: itself if it is rooted, else appended with one `/` between unless
`base` is empty or ends in one. The texts are kept. -/
def join (base path : String) : String :=
  if isRooted path then path
  else if base.isEmpty || base.toList.getLast? == some '/' then base ++ path
  else base ++ "/" ++ path

/-- Drop the pieces at the end that stand for no component. -/
def trimPieces (ps : List (List Char)) : List (List Char) :=
  (ps.reverse.dropWhile fun p => (component? p).isNone).reverse

/-- Pieces with a `/` between them. -/
def ofPieces (ps : List (List Char)) : String :=
  "/".intercalate (ps.map String.ofList)

/-- The path without its last component, if it has one besides the root. -/
def parent? (path : String) : Option String :=
  match pieces isSlash path.toList with
  | [] :: ps =>
    -- a rooted path, or the empty one
    match trimPieces ps with
    | [] => none
    | rest@(_ :: _) => some ("/" ++ ofPieces (trimPieces rest.dropLast))
  | first :: ps =>
    match trimPieces ps with
    | [] => some ""
    | rest@(_ :: _) => some (ofPieces (first :: trimPieces rest.dropLast))
  | [] => none

/-- A path and those above it, at most `n` of them. -/
def ancestorsUpTo : Nat → String → List String
  | 0, _ => []
  | n + 1, path =>
    path ::
      match parent? path with
      | some above => ancestorsUpTo n above
      | none => []

/-- A path and all those above it, the nearest first. Each is shorter than the one before it, which
bounds their number. -/
def ancestors (path : String) : List String := ancestorsUpTo (path.length + 1) path

end ScriptRun.Path
