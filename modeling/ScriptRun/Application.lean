import ScriptRun.Declaration.Function
import ScriptRun.Declaration.Type
import ScriptRun.Declaration.Constant
import ScriptRun.Script.Catalog
import ScriptRun.Text.Quoted

/-!
# Applications

An application is set up once, before any run: it holds the functions, types and constants that
every run starts with, the scripts that runs include, and a handler for each scheme. Runs share it
and never change it.
-/

namespace ScriptRun

variable {κ : Type}

/-- What all runs of a program share. -/
structure Application (κ : Type) where
  functions : FunctionCatalog κ
  types : TypeCatalog
  constants : ConstantCatalog
  scripts : ScriptCatalog κ
  /-- The handlers by lower-case scheme; of two for one scheme the later one counts. -/
  schemes : List (String × κ)

/-- What one library brings along. -/
structure Library (κ : Type) where
  functions : List (FunctionDecl κ)
  types : List TypeDecl
  constants : List Constant
  scripts : List (String × κ)

namespace Application

/-- Nothing has been set up. -/
def empty : Application κ :=
  { functions := .empty, types := .empty, constants := .empty, scripts := .empty, schemes := [] }

/-- Add a function. -/
def addFunction (a : Application κ) (f : FunctionDecl κ) : Except RunError (Application κ) :=
  (a.functions.insert f).map fun (_, functions) => { a with functions }

/-- Add a type. -/
def addType (a : Application κ) (d : TypeDecl) : Except RunError (Application κ) :=
  (a.types.insert d).map fun (_, types) => { a with types }

/-- Add a further name of a type. -/
def addAlias (a : Application κ) (d : TypeDecl) (further : String) :
    Except RunError (Application κ) :=
  let (result, types) := a.types.insertAlias d further
  result.map fun _ => { a with types }

/-- Add a constant, unless there is one of the name. -/
def addConstant (a : Application κ) (c : Constant) : Application κ :=
  { a with constants := (a.constants.insert c).2 }

/-- Add a script. -/
def addScript (a : Application κ) (path : String) (body : κ) : Except RunError (Application κ) :=
  (a.scripts.declare path body).map fun (_, scripts) => { a with scripts }

/-- Set the handler of a scheme. -/
def setScheme (a : Application κ) (scheme : String) (handler : κ) : Application κ :=
  let key := Text.lowercaseAscii scheme
  { a with schemes := (key, handler) :: a.schemes.filter (·.1 != key) }

/-- Add all that a library brings along: functions, types, constants, then scripts. -/
def addLibrary (a : Application κ) (m : Library κ) : Except RunError (Application κ) := do
  let a ← m.functions.foldlM addFunction a
  let a ← m.types.foldlM addType a
  let a := m.constants.foldl addConstant a
  m.scripts.foldlM (fun a (path, body) => a.addScript path body) a

/-- The handler of a scheme, in any case. -/
def handler? (a : Application κ) (scheme : String) : Option κ :=
  (a.schemes.find? (·.1 == Text.lowercaseAscii scheme)).map (·.2)

/-- An application as it is shown for inspection, schemes in order. -/
def shown (a : Application κ) : String :=
  let schemes := (a.schemes.map (·.1)).mergeSort (· ≤ ·)
  "Application \x7b routines: " ++ toString a.functions.size
    ++ ", types: " ++ toString a.types.size
    ++ ", constants: " ++ toString a.constants.size
    ++ ", scripts: " ++ toString a.scripts.size
    ++ ", schemes: " ++ Text.bracketed (schemes.map Text.quoted) ++ " \x7d"

end Application

/-- A function as it is shown for inspection. Its tag is no one's business. -/
def FunctionDecl.shown (f : FunctionDecl κ) : String :=
  "FunctionDescriptor \x7b name: " ++ Text.quoted f.name ++ ", declaring_unit: "
    ++ (match f.unit with
      | some i => "Some(ScriptIndex(" ++ toString i ++ "))"
      | none => "None")
    ++ ", tag: DescriptorTag(_) \x7d"

/-- A script as it is shown for inspection. -/
def ScriptUnit.shown (u : ScriptUnit κ) : String :=
  "CompiledUnit \x7b index: ScriptIndex(" ++ toString u.index ++ "), path: "
    ++ Text.quoted u.path ++ " \x7d"

end ScriptRun
