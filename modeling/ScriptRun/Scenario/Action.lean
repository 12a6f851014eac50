import ScriptRun.Diagnostic.Basic
import ScriptRun.Declaration.Constant
import ScriptRun.Value.Bindings

/-!
# Actions

A scenario says what the guests of a run do as lists of actions. An action asks for one operation of
the run and has an answer; besides, there are choices and early ends. Functions, types and resources
are known to a scenario under handles of its own.
-/

namespace ScriptRun.Scenario

/-- How something that is meant to go wrong does so. -/
inductive Mishap where
  | fail (text : String)
  | panic (text : String)

/-- How a function is picked for a call. -/
inductive Callee where
  | handle (id : String)
  | name (name : String)
  | place (i : Nat)

/-- A type to be made. Its base is an earlier handle, unless it is dead. -/
structure TypeSpec where
  id : String
  name : String
  base : Option String
  deadBase : Bool
  autoload : Bool

/-- Which variables an included script works on. -/
inductive InclusionMode where
  /-- Those of the script that asks. -/
  | shared
  /-- Others, which are given. -/
  | lent
  /-- Those of the run. -/
  | global

/-- An inclusion. `none` for the mode leaves it to where the inclusion happens. Of the optional
parts, `none` takes what the script that asks has, and `some none` takes nothing. -/
structure InclusionSpec where
  path : String
  mode : Option InclusionMode
  /-- The variables that are given. -/
  bindings : Bindings
  dir : Option (Option String)
  once : Bool
  require : Bool
  this : Option (Option Value)
  selfType : Option (Option String)

mutual

/-- A step of a body. -/
inductive Action where
  /-- Do something, and log it under a label. If `caught`, an error does not end the body. -/
  | act (label : String) (caught : Bool) (deed : Deed)
  | ret (value : Value)
  /-- End with the value of a variable. -/
  | retVar (name : String)
  /-- Go on in one of two ways, as a variable has a value or not. -/
  | branch (name : String) (value : Value) (yes no : List Action)

/-- What an action does. -/
inductive Deed where
  | log (text : String)
  | set (name : String) (value : Value)
  | unset (name : String)
  | get (name : String)
  | incr (name : String)
  | vars
  | globals
  | args
  | info
  | fail (e : RunError)
  | panic (p : Payload)
  | inclusion (spec : InclusionSpec)
  | runEntry (path : String)
  | resolveScript (path : String) (dir : Option String)
  | checkOnce (path : String)
  | onInclude (path : String)
  | included
  | newFunction (id name : String) (unit : Option Nat) (body : List Action)
  | newType (spec : TypeSpec)
  | declareFunction (id : String)
  | declareType (id : String)
  | declareAlias (id further : String)
  | lookupFunction (name : String)
  | functionAt (i : Nat)
  | functionIndex (name : String)
  | checkFunction (i : Nat) (id : String)
  | demandFunction (id : String)
  | functions
  | functionShown (id : String)
  | call (callee : Callee) (args : List Value)
  | lookupType (name : String)
  | resolveType (name : String) (caller : Option String) (autoload : Bool)
  | needType (name : String) (caller : Option String) (autoload : Bool)
  | ensureType (id : String)
  | aliases (id : String)
  | types
  | declareConstant (c : Constant)
  | constant (name : String)
  | constants
  | write (text : String)
  | writeBytes (data : List UInt8)
  | flush
  | closeSession
  | onShutdown (id : String) (body : List Action)
  | keep (id : String) (mishap : Option Mishap)
  | handBack (id : String) (disposing : Bool)
  | track (path : String)
  | untrack (path : String)
  | isTemporary (path : String)
  | setHandler (id : String) (body : List Action)
  | clearHandler
  | offerError (e : RunError)
  | report (d : Diagnostic)
  | dispose
  | state
  | options
  | resolver
  | hasScheme (name : String)
  | counts
  | shown
  | appShown

end

instance : Inhabited Action := ⟨.ret .null⟩

instance : Inhabited Deed := ⟨.vars⟩

end ScriptRun.Scenario
