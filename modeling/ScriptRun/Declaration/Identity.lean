/-!
# Identity and names of declarations

A function or type is identified by its tag, which is issued once and never again, and not by its
name: two functions of one name are two functions. A name finds a declaration in any case of its
ASCII letters and with any number of leading backslashes.

Tags never run out, and neither do the indices of scripts and the numbers of resources.
-/

namespace ScriptRun

/-! ### Tags -/

/-- The identity of a function or type. -/
structure Tag where
  number : Nat
  deriving DecidableEq, Inhabited

/-- The next tag that will be issued. -/
structure TagSupply where
  next : Nat

namespace TagSupply

/-- Nothing has been issued. Numbers start at one. -/
def full : TagSupply := ⟨1⟩

/-- Issue a tag. -/
def issue (s : TagSupply) : Tag × TagSupply := (⟨s.next⟩, ⟨s.next + 1⟩)

/-- Issue several tags. -/
def issueMany : Nat → TagSupply → List Tag × TagSupply
  | 0, s => ([], s)
  | n + 1, s =>
    let (t, s) := s.issue
    let (ts, s) := issueMany n s
    (t :: ts, s)

end TagSupply

/-- Whether each tag has a larger number than the one before it. -/
def Tag.ascending : List Tag → Bool
  | [] => true
  | [_] => true
  | a :: b :: rest => decide (a.number < b.number) && ascending (b :: rest)

/-! ### Names -/

/-- The spelling under which functions and types are found: without leading backslashes, and in
ASCII lower case. -/
def nameKey (name : String) : String :=
  String.ofList ((name.toList.dropWhile (· == '\\')).map Char.toLower)

end ScriptRun
