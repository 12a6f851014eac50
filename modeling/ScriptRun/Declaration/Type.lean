import ScriptRun.Declaration.Identity
import ScriptRun.Outcome

/-!
# Types

A type is listed once, under its own name, and may have further names. A folded name belongs to one
type at most, and keeps the spelling it was first given.

As with functions, a run sees the catalog of the application and its own behind it. A further name
for a type of the application belongs to the run that gave it.
-/

namespace ScriptRun

/-- A type: what it extends, as long as that is alive, and whether autoload may supply it. -/
structure TypeDecl where
  tag : Tag
  name : String
  autoload : Bool
  base : Option TypeDecl

/-- A type as it stands when only some types are alive. A type does not keep what it extends
alive. -/
def TypeDecl.amid (alive : Tag → Bool) (d : TypeDecl) : TypeDecl :=
  { d with base := d.base.filter fun b => alive b.tag }

/-- A name of a type: folded, as first spelled, and the type it belongs to. -/
structure NameOfType where
  key : String
  spelling : String
  type : TypeDecl

/-- Types in the order of their declaration, and their names. -/
structure TypeCatalog where
  entries : List TypeDecl
  names : List NameOfType

namespace TypeCatalog

/-- The catalog without types. -/
def empty : TypeCatalog := ⟨[], []⟩

/-- The type that a name belongs to. -/
def get? (t : TypeCatalog) (name : String) : Option TypeDecl :=
  (t.names.find? (·.key == nameKey name)).map (·.type)

/-- How many types there are. -/
def size (t : TypeCatalog) : Nat := t.entries.length

/-- Whether some name belongs to a type. -/
def keeps (t : TypeCatalog) (tag : Tag) : Bool := t.names.any (·.type.tag == tag)

/-- Give a type a name. Answers whether the name is new; a name of another type is refused. -/
def bind (t : TypeCatalog) (name : String) (d : TypeDecl) : Except RunError (Bool × TypeCatalog) :=
  match t.get? name with
  | some e => if e.tag = d.tag then .ok (false, t) else .error (.redeclared .type name)
  | none => .ok (true, { t with names := t.names ++ [⟨nameKey name, name, d⟩] })

/-- Declare a type under its own name. Answers whether that is new. -/
def insert (t : TypeCatalog) (d : TypeDecl) : Except RunError (Bool × TypeCatalog) :=
  match t.bind d.name d with
  | .error e => .error e
  | .ok (true, t) => .ok (true, { t with entries := t.entries ++ [d] })
  | .ok (false, t) => .ok (false, t)

/-- Declare a type under its own name and a further one, step by step: the answer is that of the
second step, and the catalog is the one that the last step to succeed left. -/
def insertAlias (t : TypeCatalog) (d : TypeDecl) (further : String) :
    Except RunError Bool × TypeCatalog :=
  match t.insert d with
  | .error e => (.error e, t)
  | .ok (_, t) =>
    match t.bind further d with
    | .error e => (.error e, t)
    | .ok (fresh, t) => (.ok fresh, t)

/-- The further names of a type as they were first spelled, in order. -/
def aliases (t : TypeCatalog) (d : TypeDecl) : List String :=
  ((t.names.filter fun n => n.key != nameKey d.name && n.type.tag == d.tag).map
    (·.spelling)).mergeSort (· ≤ ·)

end TypeCatalog

/-- The types a run sees: those of the application, then its own. -/
structure LayeredTypes where
  app : TypeCatalog
  own : TypeCatalog

namespace LayeredTypes

/-- A run that has declared nothing. -/
def ofApp (app : TypeCatalog) : LayeredTypes := ⟨app, .empty⟩

/-- Whether a type is listed by the application. -/
def inApp (r : LayeredTypes) (d : TypeDecl) : Bool :=
  match r.app.get? d.name with
  | some e => e.tag == d.tag
  | none => false

/-- Declare a type for the run. -/
def declare (r : LayeredTypes) (d : TypeDecl) : Except RunError LayeredTypes :=
  match r.app.get? d.name with
  | some e => if e.tag = d.tag then .ok r else .error (.redeclared .type d.name)
  | none => (r.own.insert d).map fun (_, own) => { r with own }

/-- Give a type a further name for the run, declaring it if need be. As in a catalog, what was done
before the step that fails stays done. -/
def declareAlias (r : LayeredTypes) (d : TypeDecl) (further : String) :
    Except RunError Unit × LayeredTypes :=
  match r.app.get? further with
  | some e => (if e.tag = d.tag then .ok () else .error (.redeclared .type further), r)
  | none =>
    if r.inApp d then
      match r.own.bind further d with
      | .error e => (.error e, r)
      | .ok (_, own) => (.ok (), { r with own })
    else
      match r.declare d with
      | .error e => (.error e, r)
      | .ok r =>
        let (result, own) := r.own.insertAlias d further
        (result.map fun _ => (), { r with own })

/-- The type that a name belongs to. -/
def lookup? (r : LayeredTypes) (name : String) : Option TypeDecl :=
  (r.app.get? name).or (r.own.get? name)

/-- Whether a type is the one its own name belongs to. -/
def isDeclared (r : LayeredTypes) (d : TypeDecl) : Bool :=
  match r.lookup? d.name with
  | some e => e.tag == d.tag
  | none => false

/-- The further names of a type, those of the application first. -/
def aliases (r : LayeredTypes) (d : TypeDecl) : List String := r.app.aliases d ++ r.own.aliases d

/-- Whether some name belongs to a type. -/
def keeps (r : LayeredTypes) (tag : Tag) : Bool := r.app.keeps tag || r.own.keeps tag

/-- All types, those of the application first. -/
def toList (r : LayeredTypes) : List TypeDecl := r.app.entries ++ r.own.entries

/-- How many types there are. -/
def size (r : LayeredTypes) : Nat := r.app.size + r.own.size

end LayeredTypes

end ScriptRun
