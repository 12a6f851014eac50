/-!
# Lexical paths

Scripts name each other by paths that are read as text alone: no file system is asked. Both `/` and
`\` separate segments. Reading a path keeps a stack: an empty segment and `.` do nothing, `..` takes
one segment off unless the stack is empty, and any other segment goes on top.
-/

namespace ScriptRun.Path

/-- The two separators of lexical paths. -/
def isSeparator (c : Char) : Bool := c == '/' || c == '\\'

/-- Cut characters at every separator. There is always one piece more than there are separators. -/
def pieces (sep : Char → Bool) : List Char → List (List Char)
  | [] => [[]]
  | c :: cs => if sep c then [] :: pieces sep cs else (pieces sep cs).modifyHead (c :: ·)

theorem pieces_ne_nil (sep : Char → Bool) (cs : List Char) : pieces sep cs ≠ [] := by
  induction cs with
  | nil => simp [pieces]
  | cons c cs ih => by_cases h : sep c <;> simp [pieces, h, ih]

/-- What stands before a separator and what stands behind it are cut by themselves. -/
theorem pieces_append_cons {sep : Char → Bool} {c : Char} (h : sep c = true) (a b : List Char) :
    pieces sep (a ++ c :: b) = pieces sep a ++ pieces sep b := by
  induction a with
  | nil => simp [pieces, h]
  | cons x a ih =>
    by_cases hx : sep x
    · simp [pieces, hx, ih]
    · cases hp : pieces sep a with
      | nil => exact absurd hp (pieces_ne_nil sep a)
      | cons p ps => simp [pieces, hx, ih, hp]

/-- What one piece of a path does to the stack of segments read so far. -/
def push (stack : List String) (piece : List Char) : List String :=
  if piece = [] ∨ piece = ['.'] then stack
  else if piece = ['.', '.'] then stack.dropLast
  else stack ++ [String.ofList piece]

/-- Read a path onto a stack of segments. -/
def readOnto (stack : List String) (path : List Char) : List String :=
  (pieces isSeparator path).foldl push stack

/-- A path is read piece by piece: what stands behind a separator goes onto the stack that the rest
has left. -/
theorem readOnto_append_cons {c : Char} (h : isSeparator c = true) (stack : List String)
    (a b : List Char) :
    readOnto stack (a ++ c :: b) = readOnto (readOnto stack a) b := by
  simp [readOnto, pieces_append_cons h]

/-- The segments of a path. -/
def segments (path : String) : List String := readOnto [] path.toList

/-- Segments joined into one path. -/
def ofSegments (segs : List String) : String := "/".intercalate segs

/-- The canonical spelling of a path: its segments with one `/` between them. -/
def canonical (path : String) : String := ofSegments (segments path)

/-- A path is absolute if it starts with a separator, or with a drive letter, a colon and a
separator. -/
def isAbsolute (path : String) : Bool :=
  match path.toList with
  | c :: rest =>
    isSeparator c ||
      match rest with
      | d :: e :: _ => c.isAlpha && d == ':' && isSeparator e
      | _ => false
  | [] => false

/-- `path` below `base`. -/
def under (base path : String) : String := base ++ "/" ++ path

@[simp] theorem segments_under (base path : String) :
    segments (under base path) = readOnto (segments base) path.toList := by
  simp [segments, under, readOnto_append_cons (c := '/') rfl]

/-- `path` itself if it is absolute, else `path` below `base`. -/
def onto (base path : String) : String := if isAbsolute path then path else under base path

/-- The part of a path up to its last `/`, empty if there is none. -/
def directory (path : String) : String :=
  String.ofList ((path.toList.reverse.dropWhile (· != '/')).drop 1).reverse

end ScriptRun.Path
