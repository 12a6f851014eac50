import ScriptRun.Outcome
import ScriptRun.Path.Lexical

/-!
# Scripts

The scripts of an application, in the order of their registration. The place of a script is its
index, and no two scripts have one canonical path.
-/

namespace ScriptRun

variable {κ : Type}

/-! ### Units -/

/-- A script of the application: its place in the catalog, its canonical path and the label of its
code. -/
structure ScriptUnit (κ : Type) where
  index : Nat
  path : String
  body : κ

/-- The directory a script lies in, empty at the root. -/
def ScriptUnit.directory (u : ScriptUnit κ) : String := Path.directory u.path

/-! ### Catalogs -/

/-- Scripts in the order of their registration. -/
structure ScriptCatalog (κ : Type) where
  units : List (ScriptUnit κ)

namespace ScriptCatalog

/-- The catalog without scripts. -/
def empty : ScriptCatalog κ := ⟨[]⟩

/-- The script with a canonical path. -/
def find? (t : ScriptCatalog κ) (canonical : String) : Option (ScriptUnit κ) :=
  t.units.find? (·.path == canonical)

/-- The script that a path leads to from the root. -/
def lookup? (t : ScriptCatalog κ) (path : String) : Option (ScriptUnit κ) :=
  t.find? (Path.canonical path)

/-- The script at a place. -/
def at? (t : ScriptCatalog κ) (i : Nat) : Option (ScriptUnit κ) := t.units[i]?

/-- How many scripts there are. -/
def size (t : ScriptCatalog κ) : Nat := t.units.length

/-- Register a script. The root itself is no script, and a path that is taken is refused. -/
def declare (t : ScriptCatalog κ) (path : String) (body : κ) :
    Except RunError (ScriptUnit κ × ScriptCatalog κ) :=
  let canonical := Path.canonical path
  if canonical = "" ∨ (t.find? canonical).isSome then .error (.redeclared .script path)
  else
    let u : ScriptUnit κ := { index := t.size, path := canonical, body }
    .ok (u, ⟨t.units ++ [u]⟩)

end ScriptCatalog

end ScriptRun
