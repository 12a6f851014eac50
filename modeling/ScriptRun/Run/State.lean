import ScriptRun.Application
import ScriptRun.World.Host
import ScriptRun.Script.Included
import ScriptRun.Value.Bindings
import ScriptRun.Script.Resolver

/-!
# The state of a run

Everything one execution of a program owns: what it has declared over the application, which scripts
have been included, the global variables, what has to be released at the end, and how far the run
has come. The world `σ` around the run is part of the state, so that an operation is a function
from state to state.

A run also keeps a journal of what happened to it. Nothing in a run depends on the journal; it is
what statements about whole runs speak about.
-/

namespace ScriptRun

variable {κ σ : Type}

/-- How far a run has come. -/
inductive Lifecycle where
  /-- No script has been executed. -/
  | created
  /-- A script has begun to execute. -/
  | running
  /-- Teardown is under way. -/
  | shuttingDown
  /-- Torn down: every further registration is ignored. -/
  | disposed
  deriving DecidableEq

/-- What a run sets going of its own accord. -/
inductive Step (κ : Type) where
  | script (unit : Nat)
  | autoload (name : String)
  | callback (code : κ)
  | dispose (id : Nat)
  | closeSession
  | flush
  | write (data : Bytes)
  | read (path : String)
  | remove (path : String)

/-- What can happen to a run. -/
inductive Event (κ : Type) where
  /-- The run sets something going. -/
  | began (step : Step κ)
  /-- A script is marked as included without being executed. -/
  | marked (unit : Nat)
  /-- A shutdown callback is accepted. -/
  | queued (code : κ)
  /-- A resource is accepted. -/
  | kept (id : Nat)
  /-- A resource is handed back. -/
  | handedBack (id : Nat)
  | tracked (path : String)
  | untracked (path : String)
  /-- The exception handler is asked. -/
  | handled (error : RunError)
  /-- A step of teardown has ended. -/
  | concluded (step : String) (outcome : Outcome Unit)
  | reported (d : Diagnostic)
  /-- Guest code uses the host. -/
  | wrote (data : Bytes)
  | flushed
  | closed

/-- The state of a run. -/
structure Run (κ σ : Type) where
  functions : LayeredFunctions κ
  types : LayeredTypes
  constants : LayeredConstants
  included : Included
  globals : Bindings
  /-- The shutdown callbacks, the next one first. -/
  callbacks : List κ
  /-- The resources to release, by increasing number. -/
  resources : List (Nat × Resource σ)
  /-- The number of the next resource. -/
  nextResource : Nat
  /-- The files to delete, as they were first spelled. -/
  temporaries : List String
  handler : Option κ
  lifecycle : Lifecycle
  world : σ
  journal : Array (Event κ)

namespace Run

/-- Whether a run has been torn down. -/
def isDisposed (r : Run κ σ) : Bool := r.lifecycle == .disposed

/-- Write an event into the journal. -/
def record (r : Run κ σ) (e : Event κ) : Run κ σ := { r with journal := r.journal.push e }

/-- The state of a run over an application before anything has happened to it. -/
def blank (app : Application κ) (w : σ) : Run κ σ :=
  { functions := .ofApp app.functions
    types := .ofApp app.types
    constants := .ofApp app.constants
    included := .none
    globals := .empty
    callbacks := []
    resources := []
    nextResource := 0
    temporaries := []
    handler := none
    lifecycle := .created
    world := w
    journal := #[] }

/-! ### Resources -/

/-- Have a callback run at teardown, behind those registered before. -/
def onShutdown (code : κ) (r : Run κ σ) : Run κ σ :=
  if r.isDisposed then r
  else { r with callbacks := r.callbacks ++ [code] }.record (.queued code)

/-- Have a resource released at teardown. Answers its number, or nothing once disposed. -/
def keep (resource : Resource σ) (r : Run κ σ) : Option Nat × Run κ σ :=
  if r.isDisposed then (none, r)
  else
    (some r.nextResource,
      { r with
        resources := r.resources ++ [(r.nextResource, resource)]
        nextResource := r.nextResource + 1 }.record (.kept r.nextResource))

/-- Take a resource back without releasing it. -/
def handBack (id : Nat) (r : Run κ σ) : Option (Resource σ) × Run κ σ :=
  match r.resources.find? (·.1 == id) with
  | some (_, resource) =>
    (some resource,
      { r with resources := r.resources.filter (·.1 != id) }.record (.handedBack id))
  | none => (none, r)

/-- Whether a file is to be deleted at teardown, however its path is spelled. -/
def isTemporary (path : String) (r : Run κ σ) : Bool := r.temporaries.any (Path.samePath path)

/-- Have a file deleted at teardown. Answers whether that is new. -/
def track (path : String) (r : Run κ σ) : Bool × Run κ σ :=
  if r.isDisposed || r.isTemporary path then (false, r)
  else (true, { r with temporaries := r.temporaries ++ [path] }.record (.tracked path))

/-- Leave a file alone after all. Answers whether it was to be deleted. -/
def untrack (path : String) (r : Run κ σ) : Bool × Run κ σ :=
  if r.isTemporary path then
    (true, { r with
      temporaries := r.temporaries.filter fun p => !Path.samePath path p }.record (.untracked path))
  else (false, r)

/-! ### Exception handler -/

/-- Install a handler for errors that nothing else caught; answers the one it replaces. -/
def setHandler (code : κ) (r : Run κ σ) : Option κ × Run κ σ :=
  (r.handler, { r with handler := some code })

/-- Take the handler away; answers it. -/
def clearHandler (r : Run κ σ) : Option κ × Run κ σ := (r.handler, { r with handler := none })

end Run

end ScriptRun
