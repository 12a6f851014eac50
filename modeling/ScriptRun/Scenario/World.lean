import ScriptRun.Scenario.Action
import ScriptRun.Run.Guest
import ScriptRun.World.MemoryHost

/-!
# The world of a scenario

Around the runs of a scenario there is a world: a log of what was noticed, the handles by which the
scenario knows its declarations, and for each run a host, a few files and the diagnostics it gave.
What a run is given to work with is described beforehand, mishaps included.

A handle leads to the declaration that was last made under it. Since a type does not keep its base
alive, the world also knows what does: the handles, runs that are at rest, and code under way.
-/

namespace ScriptRun.Scenario

/-! ### Answers -/

/-- The labels of the code of a scenario. -/
inductive Code where
  /-- A body, known to the log under a place. -/
  | body (place : String) (actions : List Action)
  /-- An autoload hook, by its body for each name. -/
  | autoload (body : String → List Action)
  /-- A scheme handler that looks for its path behind another one. -/
  | schemePrefix (scheme front : String)
  /-- A scheme handler that looks for its path in the directory that asks. -/
  | schemeDir (scheme : String)
  /-- A scheme handler that has its path resolved. -/
  | schemeResolve (scheme : String)
  /-- A scheme handler that finds nothing. -/
  | schemeNone (scheme : String)

/-- What an action answers. -/
inductive Answer where
  | null
  | bool (b : Bool)
  | num (n : Nat)
  | text (s : String)
  | value (v : Value)
  | optional (v : Option Value)
  | bindings (l : Bindings)
  | error (e : RunError)
  | panic (p : Payload)
  | function (f : FunctionDecl Code)
  | type (d : TypeDecl)
  | unit (u : ScriptUnit Code)
  | constant (c : Constant)
  | options (o : Options)
  /-- The handle of a type. -/
  | handle (t : Tag)
  | list (items : List Answer)
  | record (fields : List (String × Answer))

/-- The answer for what may be missing. -/
def Answer.ofOption {α : Type} (f : α → Answer) : Option α → Answer
  | some a => f a
  | none => .null

/-- The answer for several of a kind. -/
def Answer.ofList {α : Type} (f : α → Answer) (l : List α) : Answer := .list (l.map f)

/-- What the log holds. -/
inductive LogEntry where
  | scheme (name : String) (dir : Option String) (path : String)
  | host (call : String)
  | read (path : String)
  | remove (path : String)
  | autoload (name : String)
  | dispose (id : String)
  | caught (place : String) (e : RunError)
  | action (place label : String) (answer : Answer)

/-! ### Runs and their surroundings -/

/-- What a run is given to work with. -/
structure RunSpec where
  options : Options
  args : Option (List String)
  session : Bool
  /-- What goes wrong when the session is closed, output flushed or taken. -/
  onClose : Option Mishap
  onFlush : Option Mishap
  onWrite : Option Mishap
  files : List (String × Bytes)
  /-- The files that cannot be deleted. -/
  locked : List (String × Mishap)
  /-- The body of the autoload hook for each name. -/
  autoload : Option (String → List Action)
  /-- Diagnostics are thrown away. -/
  quiet : Bool
  /-- Nothing of the host and the files can be seen from outside. -/
  bare : Bool

/-- What a run gets if nothing is said. -/
def RunSpec.plain : RunSpec :=
  { options := .standard, args := none, session := false, onClose := none, onFlush := none
    onWrite := none, files := [], locked := [], autoload := none, quiet := false, bare := false }

/-- What a run without surroundings of its own gets. -/
def RunSpec.unseen : RunSpec := { plain with quiet := true, bare := true }

/-- The part of the world that belongs to one run. -/
structure Surroundings where
  host : MemoryHost
  files : List (String × Bytes)
  diagnostics : List Diagnostic

/-- The world of a scenario. -/
structure World where
  log : Array LogEntry
  runs : List (String × Surroundings)
  functions : List (String × FunctionDecl Code)
  types : List (String × TypeDecl)
  /-- The handle that each declaration was made under. -/
  handles : List (Tag × String)
  /-- The runs that are not under way, by the types that they see. -/
  atRest : List LayeredTypes
  /-- The types that code under way has in use, the latest first. -/
  inUse : List Tag
  tags : TagSupply
  /-- The numbers that resources were accepted under, by their handles. -/
  resources : List (String × Nat)
  /-- What the latest action from outside answered. -/
  answer : Answer

namespace World

/-- A world in which nothing has happened. -/
def empty : World :=
  { log := #[], runs := [], functions := [], types := [], handles := [], atRest := [], inUse := []
    tags := .full, resources := [], answer := .null }

/-- Write into the log. -/
def note (w : World) (e : LogEntry) : World := { w with log := w.log.push e }

/-- The surroundings of a run. -/
def around (w : World) (run : String) : Surroundings :=
  (w.runs.lookup run).getD { host := .new false, files := [], diagnostics := [] }

/-- Change the surroundings of a run. -/
def setAround (w : World) (run : String) (s : Surroundings) : World :=
  { w with runs := (run, s) :: w.runs.filter (·.1 != run) }

/-- Make a function. -/
def makeFunction (w : World) (id name : String) (unit : Option Nat) (body : Code) : World :=
  let (tag, tags) := w.tags.issue
  { w with
    functions := (id, { tag, name, unit, body }) :: w.functions
    handles := (tag, id) :: w.handles
    tags }

/-- Make a type. The one that its handle led to before may come to its end by that. -/
def makeType (w : World) (spec : TypeSpec) : World :=
  let (tag, tags) := w.tags.issue
  let base := if spec.deadBase then none else spec.base.bind fun b => w.types.lookup b
  let made : TypeDecl := { tag, name := spec.name, autoload := spec.autoload, base }
  { w with
    types := (spec.id, made) :: w.types.filter (·.1 != spec.id)
    handles := (tag, spec.id) :: w.handles
    tags }

/-- Whether the world keeps a type alive. -/
def keeps (w : World) (tag : Tag) : Bool :=
  w.types.any (·.2.tag == tag) || w.atRest.any (·.keeps tag) || w.inUse.contains tag

/-- Have a type in use, if one is given. -/
def use (w : World) (d : Option TypeDecl) : World :=
  { w with inUse := (d.map (·.tag)).toList ++ w.inUse }

/-- Have a type no longer in use. Uses end in the opposite order of their beginning. -/
def unuse (w : World) (d : Option TypeDecl) : World :=
  { w with inUse := w.inUse.drop d.toList.length }

end World

/-! ### Hooks -/

/-- How a mishap ends. -/
def Mishap.outcome {α : Type} : Mishap → Outcome α
  | .fail t => .error (.script t)
  | .panic t => .panic (.text t)

/-- The host of a run. -/
def RunSpec.host (spec : RunSpec) (run : String) : Host World :=
  let buffered : Host World :=
    MemoryHost.hooks (fun w => (w.around run).host)
      fun h w => w.setAround run { w.around run with host := h }
  if spec.bare then buffered
  else
    { write := fun data w =>
        match spec.onWrite with
        | some m => (m.outcome, w)
        | none => buffered.write data w
      flush := fun w =>
        let w := w.note (.host "flush")
        match spec.onFlush with
        | some m => (m.outcome, w)
        | none => buffered.flush w
      closeSession := fun w =>
        let w := w.note (.host "close")
        match spec.onClose with
        | some m => (m.outcome, w)
        | none => buffered.closeSession w }

/-- The files of a run. A run without surroundings of its own finds none. -/
def RunSpec.streams (spec : RunSpec) (run : String) : Streams World :=
  if spec.bare then
    { read := fun _ w => (.error .notFound, w), remove := fun _ w => (.error .notFound, w) }
  else
    { read := fun path w =>
        let found :=
          match (w.around run).files.lookup path with
          | some data => FileOutcome.ok data
          | none => .error .notFound
        (found, w.note (.read path))
      remove := fun path w =>
        let w := w.note (.remove path)
        let around := w.around run
        match spec.locked.lookup path with
        | some (.fail t) => (.error (.other t), w)
        | some (.panic t) => (.panic (.text t), w)
        | none =>
          if (around.files.lookup path).isSome then
            (.ok (), w.setAround run { around with files := around.files.filter (·.1 != path) })
          else (.error .notFound, w) }

/-- The sink of a run. -/
def RunSpec.sink (spec : RunSpec) (run : String) : Sink World := fun d w =>
  if spec.quiet then w
  else
    let around := w.around run
    w.setAround run { around with diagnostics := around.diagnostics ++ [d] }

/-- A resource that is known under a handle. -/
def resource (id : String) (mishap : Option Mishap) : Resource World where
  dispose w :=
    (match mishap with
      | some m => m.outcome
      | none => .ok (),
      w.note (.dispose id))

end ScriptRun.Scenario
