import ScriptRun.Run.Guest
import ScriptRun.Declaration.TypeMention
import ScriptRun.Value.Text

/-!
# Declaring and finding

Declarations for the rest of a run, and the resolution of type names. A type that is not declared
may be supplied by the autoload hook, which is asked once and may do anything to the run; what
counts is what the name belongs to afterwards.

Once a run is disposed, declarations are ignored.
-/

namespace ScriptRun.Run

variable {κ σ : Type} (s : Setting κ σ) (call : Invoke κ σ)

/-- Hand a diagnostic to the sink. -/
def report (d : Diagnostic) (r : Run κ σ) : Run κ σ :=
  { r with world := s.sink d r.world }.record (.reported d)

/-! ### Declarations -/

/-- Declare a function for the rest of the run. -/
def declareFunction (f : FunctionDecl κ) (r : Run κ σ) : Outcome Unit × Run κ σ :=
  if r.isDisposed then (.ok (), r)
  else
    match r.functions.declare f with
    | .ok functions => (.ok (), { r with functions })
    | .error e => (.error e, r)

/-- Declare a type for the rest of the run. -/
def declareType (d : TypeDecl) (r : Run κ σ) : Outcome Unit × Run κ σ :=
  if r.isDisposed then (.ok (), r)
  else
    match r.types.declare d with
    | .ok types => (.ok (), { r with types })
    | .error e => (.error e, r)

/-- Give a type a further name for the rest of the run. -/
def declareAlias (d : TypeDecl) (further : String) (r : Run κ σ) : Outcome Unit × Run κ σ :=
  if r.isDisposed then (.ok (), r)
  else
    let (result, types) := r.types.declareAlias d further
    (.ofExcept result, { r with types })

/-- The warning about a constant that is declared again with another value. -/
def constantRedefined (name : String) (existing : Value) : Diagnostic :=
  (Diagnostic.make .warning Diagnostic.constantRedefined
    ("Constant " ++ name ++ " already defined")).withNote ("current value: " ++ existing.toText)

/-- Declare a constant for the rest of the run. Answers whether it is new. Another value is warned
about, and the first one stands. -/
def declareConstant (c : Constant) (r : Run κ σ) : Bool × Run κ σ :=
  if r.isDisposed then (false, r)
  else
    let (result, constants) := r.constants.declare c
    let r := { r with constants }
    match result with
    | .new => (true, r)
    | .unchanged => (false, r)
    | .conflict existing => (false, r.report s (constantRedefined c.name existing))

/-- Whether the function at a place still is the one that a call site remembers. -/
def isFunctionAt (i : Nat) (expected : Tag) (r : Run κ σ) : Bool :=
  match r.functions.at? i with
  | some f => f.tag == expected
  | none => false

/-- Fail unless a function is declared. -/
def demandFunction (f : FunctionDecl κ) (r : Run κ σ) : Outcome Unit :=
  if r.functions.isDeclared f then .ok () else .error (.functionNotFound f.name)

/-! ### Type names -/

/-- The type that a name belongs to, after asking the autoload hook if there is none. -/
def lookupType (name : String) (autoload : Bool) (r : Run κ σ) :
    Option (Outcome (Option TypeDecl) × Run κ σ) :=
  match r.types.lookup? name with
  | some d => some (.ok (some d), r)
  | none =>
    if !autoload || r.isDisposed then some (.ok none, r)
    else
      match s.autoload with
      | none => some (.ok none, r)
      | some hook =>
        match call hook (.name name) none .global (r.record (.began (.autoload name))) with
        | none => none
        | some (.ok _, _, r) => some (.ok (r.types.lookup? name), r)
        | some (.error e, _, r) => some (.error e, r)
        | some (.panic p, _, r) => some (.panic p, r)

/-- The type that a name stands for where it is used inside of type `caller`. -/
def resolveType (name : String) (caller : Option TypeDecl) (autoload : Bool) (r : Run κ σ) :
    Option (Outcome (Option TypeDecl) × Run κ σ) :=
  match TypeMention.ofName name with
  | .self => some (.ok caller, r)
  | .parent => some (.ok (caller.bind (·.base)), r)
  | .static => some (.error .lateStaticBinding, r)
  | .named name => lookupType s call name autoload r

/-- The type that a name stands for, of which there has to be one. -/
def needType (name : String) (caller : Option TypeDecl) (autoload : Bool) (r : Run κ σ) :
    Option (Outcome TypeDecl × Run κ σ) :=
  (resolveType s call name caller autoload r).map fun (o, r) =>
    (o.bind fun
      | some d => .ok d
      | none => .error (.typeNotFound name), r)

/-- Make sure that a type is the one its name belongs to. -/
def ensureType (d : TypeDecl) (r : Run κ σ) : Option (Outcome Unit × Run κ σ) :=
  if r.types.isDeclared d then some (.ok (), r)
  else
    (lookupType s call d.name d.autoload r).map fun (o, r) =>
      (o.bind fun
        | some e => if e.tag = d.tag then .ok () else .error (.typeMismatch d.name)
        | none => .error (.typeNotFound d.name), r)

end ScriptRun.Run
