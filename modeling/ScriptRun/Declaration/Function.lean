import ScriptRun.Declaration.Identity
import ScriptRun.Outcome

/-!
# Functions

A catalog lists functions in the order of their declaration, and a folded name belongs to one of
them at most. The position of a function never changes, so a call site may remember it.

A run sees two catalogs as one: that of the application, which it cannot change, and its own behind
it.
-/

namespace ScriptRun

variable {κ : Type}

/-- A function: the label of its code, and the script it is declared in, by index. -/
structure FunctionDecl (κ : Type) where
  tag : Tag
  name : String
  unit : Option Nat
  body : κ

/-- Functions in the order of their declaration. -/
structure FunctionCatalog (κ : Type) where
  entries : List (FunctionDecl κ)

namespace FunctionCatalog

/-- The catalog without functions. -/
def empty : FunctionCatalog κ := ⟨[]⟩

/-- The function that a name belongs to. -/
def get? (t : FunctionCatalog κ) (name : String) : Option (FunctionDecl κ) :=
  t.entries.find? fun f => nameKey f.name == nameKey name

/-- The place of the function that a name belongs to. -/
def position? (t : FunctionCatalog κ) (name : String) : Option Nat :=
  t.entries.findIdx? fun f => nameKey f.name == nameKey name

/-- The function at a place. -/
def at? (t : FunctionCatalog κ) (i : Nat) : Option (FunctionDecl κ) := t.entries[i]?

/-- How many functions there are. -/
def size (t : FunctionCatalog κ) : Nat := t.entries.length

/-- Declare a function. Declaring the same one again changes nothing and answers `false`; a name
that belongs to another function is refused. -/
def insert (t : FunctionCatalog κ) (f : FunctionDecl κ) :
    Except RunError (Bool × FunctionCatalog κ) :=
  match t.get? f.name with
  | some g => if g.tag = f.tag then .ok (false, t) else .error (.redeclared .function f.name)
  | none => .ok (true, ⟨t.entries ++ [f]⟩)

end FunctionCatalog

/-- The functions a run sees: those of the application, then its own. -/
structure LayeredFunctions (κ : Type) where
  app : FunctionCatalog κ
  own : FunctionCatalog κ

namespace LayeredFunctions

/-- A run that has declared nothing. -/
def ofApp (app : FunctionCatalog κ) : LayeredFunctions κ := ⟨app, .empty⟩

/-- Declare a function for the run. -/
def declare (r : LayeredFunctions κ) (f : FunctionDecl κ) :
    Except RunError (LayeredFunctions κ) :=
  match r.app.get? f.name with
  | some g => if g.tag = f.tag then .ok r else .error (.redeclared .function f.name)
  | none => (r.own.insert f).map fun (_, own) => { r with own }

/-- The function that a name belongs to. -/
def lookup? (r : LayeredFunctions κ) (name : String) : Option (FunctionDecl κ) :=
  (r.app.get? name).or (r.own.get? name)

/-- The place of the function that a name belongs to, counted through both catalogs. -/
def index? (r : LayeredFunctions κ) (name : String) : Option Nat :=
  (r.app.position? name).or ((r.own.position? name).map (r.app.size + ·))

/-- The function at a place. -/
def at? (r : LayeredFunctions κ) (i : Nat) : Option (FunctionDecl κ) :=
  if i < r.app.size then r.app.at? i else r.own.at? (i - r.app.size)

/-- Whether a function is the one its name belongs to. -/
def isDeclared (r : LayeredFunctions κ) (f : FunctionDecl κ) : Bool :=
  match r.lookup? f.name with
  | some g => g.tag == f.tag
  | none => false

/-- Whether a function has the tag that is expected and is the one its name belongs to. -/
def confirms (r : LayeredFunctions κ) (f : FunctionDecl κ) (expected : Tag) : Bool :=
  f.tag == expected &&
    match r.lookup? f.name with
    | some g => g.tag == expected
    | none => false

/-- All functions by their place. -/
def toList (r : LayeredFunctions κ) : List (FunctionDecl κ) := r.app.entries ++ r.own.entries

/-- How many functions there are. -/
def size (r : LayeredFunctions κ) : Nat := r.app.size + r.own.size

end LayeredFunctions

end ScriptRun
