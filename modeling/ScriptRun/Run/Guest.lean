import ScriptRun.Run.State
import ScriptRun.Settings.Options

/-!
# Guest code

Scripts, functions, autoload hooks, shutdown callbacks and exception handlers are code that a run
calls and that calls the run. Such code is a tree: it ends, looks at the run, or asks for an
operation and goes on according to the answer. Every branch of the tree is finite. What recurs does
so by label: operations hold labels `κ`, and what a label stands for is looked up when it is
called.

A scheme handler is a smaller tree: it may look at the run and change the world, and resolve
further paths, but not change the run.
-/

namespace ScriptRun

variable {κ σ : Type}

/-! ### What code is called with -/

/-- What a call hands over. -/
inductive Input where
  | none
  | args (values : List Value)
  /-- The name of a type to be declared. -/
  | name (name : String)
  /-- An error that nothing else caught. -/
  | caught (error : RunError)

/-- What a script knows about its inclusion, besides its variables. -/
structure ScriptContext (κ : Type) where
  unit : ScriptUnit κ
  /-- The object inside of which the inclusion happened. -/
  this : Option Value
  /-- The type inside of which the inclusion happened. -/
  selfType : Option TypeDecl

/-- The variables that code reads and writes: those of the run, or others that a caller lends. -/
inductive Variables where
  | global
  | lent (bindings : Bindings)

/-- Whether these are the variables of the run. -/
def Variables.isGlobal : Variables → Bool
  | .global => true
  | .lent _ => false

/-- The variables that were lent; none if they are those of the run. -/
def Variables.bindings : Variables → Bindings
  | .global => .empty
  | .lent l => l

/-- A request to include a script. -/
structure Request where
  path : String
  /-- The directory of the script that asks. -/
  dir : Option String
  /-- Do not execute a script that has been included. -/
  once : Bool
  /-- Fail if there is no such script. -/
  require : Bool
  this : Option Value
  selfType : Option TypeDecl

/-- The request for a path with nothing further asked. -/
def Request.of (path : String) : Request :=
  { path, dir := none, once := false, require := false, this := none, selfType := none }

/-- The request for a path that a script makes from its own scope: from its directory, and inside of
the same object and the same type. -/
def Request.within (context : ScriptContext κ) (path : String) : Request :=
  { Request.of path with
    dir := some context.unit.directory
    this := context.this
    selfType := context.selfType }

/-- What code can see. -/
structure View (κ σ : Type) where
  run : Run κ σ
  context : Option (ScriptContext κ)
  isGlobal : Bool
  vars : Bindings

/-! ### Operations -/

/-- The operations that guest code can ask for. -/
inductive Op (κ σ : Type) where
  /-- Change the world. -/
  | act (f : σ → σ)
  /-- Change the variables. -/
  | assign (f : Bindings → Bindings)
  /-- Change the variables of the run. -/
  | assignGlobals (f : Bindings → Bindings)
  /-- Call other code. -/
  | call (code : κ) (input : Input)
  | declareFunction (f : FunctionDecl κ)
  | declareType (d : TypeDecl)
  | declareAlias (d : TypeDecl) (further : String)
  | declareConstant (c : Constant)
  | resolveType (name : String) (caller : Option TypeDecl) (autoload : Bool)
  | needType (name : String) (caller : Option TypeDecl) (autoload : Bool)
  | ensureType (d : TypeDecl)
  | resolveScript (path : String) (dir : Option String)
  /-- Include a script with the variables of the code that asks. -/
  | includeShared (q : Request)
  /-- Include a script with other variables; they come back changed. -/
  | includeLending (q : Request) (bindings : Bindings)
  /-- Include a script with the variables of the run. -/
  | includeGlobal (path : String) (once require : Bool)
  | runEntry (path : String)
  | markIncluded (u : ScriptUnit κ)
  | onShutdown (code : κ)
  | keep (resource : Resource σ)
  | handBack (id : Nat)
  | track (path : String)
  | untrack (path : String)
  | setHandler (code : κ)
  | clearHandler
  /-- Offer an error to the exception handler. -/
  | offerError (e : RunError)
  | report (d : Diagnostic)
  | write (data : Bytes)
  | flush
  | closeSession
  | dispose

/-- What an operation answers. -/
@[reducible] def Op.Answer : Op κ σ → Type
  | act _ | assign _ | assignGlobals _ => Unit
  | call _ _ => Outcome Value
  | declareFunction _ | declareType _ | declareAlias _ _ => Outcome Unit
  | declareConstant _ => Bool
  | resolveType _ _ _ => Outcome (Option TypeDecl)
  | needType _ _ _ => Outcome TypeDecl
  | ensureType _ => Outcome Unit
  | resolveScript _ _ => Except Payload (Option (ScriptUnit κ))
  | includeShared _ => Outcome Value
  | includeLending _ _ => Outcome Value × Bindings
  | includeGlobal _ _ _ | runEntry _ => Outcome Value
  | markIncluded _ | onShutdown _ => Unit
  | keep _ => Option Nat
  | handBack _ => Option (Resource σ)
  | track _ | untrack _ => Bool
  | setHandler _ | clearHandler => Option κ
  | offerError _ => Outcome Bool
  | report _ => Unit
  | write _ | flush => Outcome Unit
  | closeSession => Outcome Bool
  | dispose => Outcome Unit

/-- Guest code. -/
inductive Guest (κ σ : Type) where
  /-- End. -/
  | done (result : Outcome Value)
  /-- Look at the run. -/
  | look (next : View κ σ → Guest κ σ)
  /-- Ask for an operation. -/
  | ask (op : Op κ σ) (next : op.Answer → Guest κ σ)

/-- Run code, then more according to its result. -/
def Guest.andThen : Guest κ σ → (Outcome Value → Guest κ σ) → Guest κ σ
  | .done result, more => more result
  | .look next, more => .look fun v => (next v).andThen more
  | .ask op next, more => .ask op fun a => (next a).andThen more

/-- What a search for a script comes to: a panic, or a script if there is one. -/
abbrev Found (κ : Type) := Except Payload (Option (ScriptUnit κ))

/-- The code of a scheme handler. -/
inductive Search (κ σ : Type) where
  | done (result : Found κ)
  | look (next : Run κ σ → Search κ σ)
  | act (f : σ → σ) (next : Search κ σ)
  /-- Resolve another path. -/
  | resolve (path : String) (dir : Option String) (next : Found κ → Search κ σ)

/-! ### The setting of a run -/

/-- What stays the same during a run. -/
structure Setting (κ σ : Type) where
  app : Application κ
  options : Options
  host : Host σ
  streams : Streams σ
  sink : Sink σ
  /-- The label of the autoload hook, if one is installed. -/
  autoload : Option κ
  /-- What labels stand for. -/
  code : κ → Input → Guest κ σ
  /-- What labels of scheme handlers stand for, given the directory and the rest of the path. -/
  search : κ → Option String → String → Search κ σ

/-- Where the run looks for scripts. -/
def Setting.resolver (s : Setting κ σ) : Resolver :=
  .ofSettings s.options.root s.options.includePaths s.options.workingDir

/-- Calls a label: with some input, in the context of an inclusion if it is a script, on some
variables. The answer holds the result, the variables afterwards and the run afterwards; there is
none if the call does not come to an end within its bounds. -/
abbrev Invoke (κ σ : Type) :=
  κ → Input → Option (ScriptContext κ) → Variables → Run κ σ →
    Option (Outcome Value × Variables × Run κ σ)

end ScriptRun
