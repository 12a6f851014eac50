/-!
# What can go wrong in a run

The causes of failure of the operations of a run, the wording of each, and the code it is reported
under. A step of guest code either gives a value, fails with one of these, or panics; a panic is no
failure: nothing catches it but teardown.
-/

namespace ScriptRun

/-- The kinds of declaration of which a name can have only one. -/
inductive DeclKind where
  | function
  | type
  | script
  deriving DecidableEq

/-- The word for a kind of declaration. -/
def DeclKind.word : DeclKind → String
  | .function => "function"
  | .type => "type"
  | .script => "script"

/-- The causes of failure. -/
inductive RunError where
  /-- A name is already bound to another declaration of the kind. -/
  | redeclared (kind : DeclKind) (name : String)
  | functionNotFound (name : String)
  | typeNotFound (name : String)
  /-- Another type is bound to the name than the one that was expected. -/
  | typeMismatch (name : String)
  /-- `static` means something only where a call is dispatched. -/
  | lateStaticBinding
  | scriptNotFound (path : String)
  /-- The host or the file system failed. -/
  | io (text : String)
  /-- Guest code failed of its own accord. -/
  | script (text : String)
  deriving DecidableEq

namespace RunError

/-- The wording of a failure. -/
def message : RunError → String
  | redeclared kind name => "Cannot redeclare " ++ kind.word ++ " " ++ name
  | functionNotFound name => "Call to undefined function " ++ name ++ "()"
  | typeNotFound name => "Type '" ++ name ++ "' not found"
  | typeMismatch name =>
    "Type '" ++ name ++ "' resolves to a different declaration than expected"
  | lateStaticBinding => "'static' cannot be resolved without late static binding"
  | scriptNotFound path => "Failed opening required '" ++ path ++ "'"
  | io text => text
  | script text => text

/-- The code a failure is reported under. -/
def code : RunError → String
  | redeclared .function _ => "HR0001"
  | redeclared .type _ => "HR0002"
  | typeNotFound _ => "HR0003"
  | typeMismatch _ => "HR0004"
  | redeclared .script _ => "HR0005"
  | functionNotFound _ => "HR0006"
  | scriptNotFound _ => "HR0010"
  | lateStaticBinding | io _ | script _ => "HR9999"

end RunError

/-- What a panic carries: a text, or something without one. -/
inductive Payload where
  | text (s : String)
  | untold
  deriving DecidableEq

/-- The text of a payload as it is reported. -/
def Payload.message : Payload → String
  | .text s => s
  | .untold => "non-string payload"

/-- How a step ends. -/
inductive Outcome (α : Type) where
  | ok (a : α)
  | error (e : RunError)
  | panic (p : Payload)
  deriving DecidableEq

namespace Outcome

variable {α β : Type}

/-- Go on with the value, if there is one. -/
def bind (o : Outcome α) (f : α → Outcome β) : Outcome β :=
  match o with
  | ok a => f a
  | error e => error e
  | panic p => panic p

/-- Change the value, if there is one. -/
def map (f : α → β) (o : Outcome α) : Outcome β := o.bind fun a => ok (f a)

@[simp] theorem ok_bind (a : α) (f : α → Outcome β) : (ok a).bind f = f a := rfl

@[simp] theorem error_bind (e : RunError) (f : α → Outcome β) : (error e).bind f = error e := rfl

@[simp] theorem panic_bind (p : Payload) (f : α → Outcome β) : (panic p).bind f = panic p := rfl

@[simp] theorem map_ok (f : α → β) (a : α) : (ok a).map f = ok (f a) := rfl

@[simp] theorem map_error (f : α → β) (e : RunError) : (error e).map f = error e := rfl

@[simp] theorem map_panic (f : α → β) (p : Payload) : (panic p).map f = panic p := rfl

/-- Forget the value. -/
def void (o : Outcome α) : Outcome Unit := o.map fun _ => ()

/-- What a panic carries. -/
def payload? : Outcome α → Option Payload
  | panic p => some p
  | _ => none

/-- A result that is no panic. -/
def ofExcept : Except RunError α → Outcome α
  | .ok a => ok a
  | .error e => error e

end Outcome

end ScriptRun
