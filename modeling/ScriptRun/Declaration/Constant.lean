import ScriptRun.Value.Basic
import ScriptRun.Text.Lowercase

/-!
# Constants

Constants are listed in the order of their declaration, and the first declaration of a name stands.
Each constant decides for itself whether its name ignores case; a name is looked for among those
that respect case first.

A run sees the catalog of the application and its own behind it.
-/

namespace ScriptRun

/-- A constant. Its own declaration says whether its name ignores case. -/
structure Constant where
  name : String
  value : Value
  ignoreCase : Bool

/-- What a declaration came to. -/
inductive Declared where
  /-- The constant is new. -/
  | new
  /-- There is one of the name with an equal value, and it stands. -/
  | unchanged
  /-- There is one of the name with another value, and it stands. -/
  | conflict (existing : Value)

/-- Constants in the order of their declaration. -/
structure ConstantCatalog where
  entries : List Constant

namespace ConstantCatalog

/-- The catalog without constants. -/
def empty : ConstantCatalog := ⟨[]⟩

/-- The constant that a name stands for. -/
def get? (t : ConstantCatalog) (name : String) : Option Constant :=
  (t.entries.find? fun c => !c.ignoreCase && c.name == name).or
    (t.entries.find? fun c => c.ignoreCase && Text.lowercase c.name == Text.lowercase name)

/-- How many constants there are. -/
def size (t : ConstantCatalog) : Nat := t.entries.length

/-- Declare a constant, unless its name stands for one already. -/
def insert (t : ConstantCatalog) (c : Constant) : Declared × ConstantCatalog :=
  match t.get? c.name with
  | some d => (if d.value.same c.value then .unchanged else .conflict d.value, t)
  | none => (.new, ⟨t.entries ++ [c]⟩)

end ConstantCatalog

/-- The constants a run sees: those of the application, then its own. -/
structure LayeredConstants where
  app : ConstantCatalog
  own : ConstantCatalog

namespace LayeredConstants

/-- A run that has declared nothing. -/
def ofApp (app : ConstantCatalog) : LayeredConstants := ⟨app, .empty⟩

/-- Declare a constant for the run. -/
def declare (r : LayeredConstants) (c : Constant) : Declared × LayeredConstants :=
  match r.app.get? c.name with
  | some d => (if d.value.same c.value then .unchanged else .conflict d.value, r)
  | none =>
    let (result, own) := r.own.insert c
    (result, { r with own })

/-- The constant that a name stands for. -/
def lookup? (r : LayeredConstants) (name : String) : Option Constant :=
  (r.app.get? name).or (r.own.get? name)

/-- The value that a name stands for. -/
def value? (r : LayeredConstants) (name : String) : Option Value :=
  (r.lookup? name).map (·.value)

/-- All constants, those of the application first. -/
def toList (r : LayeredConstants) : List Constant := r.app.entries ++ r.own.entries

/-- How many constants there are. -/
def size (r : LayeredConstants) : Nat := r.app.size + r.own.size

end LayeredConstants

end ScriptRun
