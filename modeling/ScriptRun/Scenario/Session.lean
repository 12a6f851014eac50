import ScriptRun.Scenario.Guests

/-!
# Sessions

A session sets up an application, begins a run over it and then acts on that run, and on further
ones, from outside. Each act is told with its answer, how far the run has come, and what was logged
and reported meanwhile.
-/

namespace ScriptRun.Scenario

/-! ### Setting up -/

/-- A function that a session brings along. -/
structure FunctionSpec where
  id : String
  name : String
  unit : Option Nat
  body : List Action

/-- A step of setting up an application. -/
inductive SetupStep where
  | function (id : String)
  | type (id : String)
  | furtherName (id name : String)
  | constant (c : Constant)
  | script (path : String) (body : List Action)
  | scheme (name : String) (handler : Code)
  | library (functions types : List String) (constants : List Constant)
    (scripts : List (String × List Action))

/-- A script's code is known to the log under its path. -/
def scriptCode (path : String) (body : List Action) : Code := .body path body

/-- Take one step. -/
def SetupStep.apply (w : World) (app : Application Code) :
    SetupStep → Except RunError (Application Code)
  | .function id =>
    match w.functions.lookup id with
    | some f => app.addFunction f
    | none => .ok app
  | .type id =>
    match w.types.lookup id with
    | some d => app.addType d
    | none => .ok app
  | .furtherName id a =>
    match w.types.lookup id with
    | some d => app.addAlias d a
    | none => .ok app
  | .constant c => .ok (app.addConstant c)
  | .script path body => app.addScript path (scriptCode path body)
  | .scheme name handler => .ok (app.setScheme name handler)
  | .library functions types constants scripts =>
    app.addLibrary
      { functions := functions.filterMap fun id => w.functions.lookup id
        types := types.filterMap fun id => w.types.lookup id
        constants
        scripts := scripts.map fun (path, body) => (path, scriptCode path body) }

/-- Take steps in turn. A step that fails is told by its place. -/
def setUp (w : World) : Nat → Application Code → List SetupStep →
    Except (Nat × RunError) (Application Code)
  | _, app, [] => .ok app
  | i, app, step :: rest =>
    match step.apply w app with
    | .ok app => setUp w (i + 1) app rest
    | .error e => .error (i, e)

/-! ### Acting -/

/-- What a session does to a run. -/
inductive Act where
  | action (a : Action)
  | begin (spec : RunSpec)
  | host
  | files
  | drop (panicking : Bool)

/-- A session. -/
structure Session where
  functions : List FunctionSpec
  types : List TypeSpec
  setup : List SetupStep
  spec : RunSpec
  acts : List (String × Act)

/-- What is told of an act. -/
structure Told where
  answer : Answer
  /-- Nothing if the run has been given up. -/
  state : Option Lifecycle
  log : List LogEntry
  diagnostics : List Diagnostic

/-- A run that a session holds; nothing once it has been given up. -/
structure Held where
  spec : RunSpec
  run : Option (Run Code World)

/-- How far a session has come. -/
structure Progress where
  world : World
  runs : List (String × Held)

/-- How deep calls may nest. -/
def depth : Nat := 100000

/-- Begin a run. Its surroundings take the place of those of an earlier run of the name. -/
def Progress.begin (p : Progress) (app : Application Code) (name : String) (spec : RunSpec) :
    Progress :=
  let w := p.world.setAround name
    { host := .new (spec.session && !spec.bare), files := spec.files, diagnostics := [] }
  let s := spec.setting app name
  let run := s.start spec.args w
  { world := run.world, runs := (name, { spec, run := some run }) :: p.runs.filter (·.1 != name) }

/-- What can be seen of a run's host. That of a run without surroundings of its own is not seen. -/
def hostAnswer (spec : RunSpec) (a : Surroundings) : Answer :=
  let h := if spec.bare then .new false else a.host
  .record [("output", .text h.output), ("pending", .text h.pendingText),
    ("active", .bool h.sessionActive), ("closed", .num h.sessionsClosed)]

/-- Act on a run that has not been given up. -/
def Action.apply (app : Application Code) (spec : RunSpec) (name : String) (a : Action)
    (run : Run Code World) : Option (Answer × Run Code World) :=
  let s := spec.setting app name
  let g : Script :=
    match a with
    | .act _ _ deed =>
      deed.script app s.options s.resolver ⟨none, []⟩ fun
        | .ok a => after (.act fun w => { w with answer := a }) (.done (.ok .null))
        | .error e => .done (.error e)
        | .panic p => .done (.panic p)
    | a => a.script app s.options s.resolver ⟨none, []⟩ (.done (.ok .null))
  (s.run depth g run).map fun
    | (.ok _, run) => (run.world.answer, run)
    | (.error e, run) => (.error e, run)
    | (.panic p, run) => (.panic p, run)

/-- Give a run up. -/
def Held.giveUp (app : Application Code) (name : String) (h : Held) (panicking : Bool)
    (run : Run Code World) : Option (Outcome Unit × Run Code World) :=
  let s := h.spec.setting app name
  Run.drop s (s.invoke depth) depth panicking run

/-- The answer of giving a run up, perhaps while a panic from elsewhere is under way. -/
def dropAnswer (panicking : Bool) : Outcome Unit → Answer
  | .panic payload => .panic payload
  | _ => if panicking then .panic (.text "outer") else .null

/-- The world for an act on one of the runs. -/
def Progress.worldFor (p : Progress) (name : String) : World :=
  let atRest := (p.runs.filter (·.1 != name)).filterMap fun (_, held) => held.run.map (·.types)
  { p.world with answer := .null, atRest }

/-- Act, and answer. There is no answer if a run that makes way for another one panics. -/
def Act.apply (app : Application Code) (name : String) (act : Act) (p : Progress) :
    Except Payload (Answer × Progress) :=
  let world := p.worldFor name
  let held : Held := (p.runs.lookup name).getD { spec := .plain, run := none }
  let put (run : Option (Run Code World)) (w : World) : Progress :=
    { world := w, runs := (name, { held with run }) :: p.runs.filter (·.1 != name) }
  match act with
  | .begin spec =>
    -- an earlier run of the name is given up
    let begun (w : World) : Progress := { p with world := w }.begin app name spec
    match held.run.bind fun run => held.giveUp app name false { run with world } with
    | some (.panic payload, _) => .error payload
    | some (_, run) => .ok (.null, begun run.world)
    | none => .ok (.null, begun world)
  | .host => .ok (hostAnswer held.spec (world.around name), p)
  | .files =>
    let keys := (world.around name).files.map (·.1)
    .ok (.ofList .text (keys.mergeSort (· ≤ ·)), p)
  | .action a =>
    match held.run with
    | none => .ok (.text "dropped", p)
    | some run =>
      match a.apply app held.spec name { run with world } with
      | some (answer, run) => .ok (answer, put (some run) run.world)
      | none => .ok (.text "unbounded", p)
  | .drop panicking =>
    match held.run with
    | none => .ok (dropAnswer panicking (.ok ()), p)
    | some run =>
      match held.giveUp app name panicking { run with world } with
      | none => .ok (.text "unbounded", p)
      | some (o, run) => .ok (dropAnswer panicking o, put none run.world)

/-- Act, and tell of it with all that has been logged and reported since the last time. -/
def Progress.step (app : Application Code) (p : Progress) (name : String) (act : Act) :
    Except Payload (Told × Progress) := do
  let (answer, p) ← act.apply app name p
  let around := p.world.around name
  let told : Told :=
    { answer
      state := (p.runs.lookup name).bind fun h => h.run.map (·.lifecycle)
      log := p.world.log.toList
      diagnostics := around.diagnostics }
  let world := { p.world with log := #[] }.setAround name { around with diagnostics := [] }
  pure (told, { p with world })

/-- Act in turn. -/
def Progress.steps (app : Application Code) :
    Progress → List (String × Act) → Except Payload (List Told × Progress)
  | p, [] => .ok ([], p)
  | p, (name, act) :: rest => do
    let (told, p) ← p.step app name act
    let (further, p) ← p.steps app rest
    pure (told :: further, p)

/-- The world in which the declarations of a session have been made. -/
def Session.world (s : Session) : World :=
  let made (w : World) (f : FunctionSpec) : World :=
    w.makeFunction f.id f.name f.unit (.body ("fn:" ++ f.id) f.body)
  s.types.foldl .makeType (s.functions.foldl made .empty)

/-- What comes of a session. -/
inductive Session.Result where
  /-- What is told of each act, and the handles of all declarations. -/
  | told (acts : List Told) (handles : List (Tag × String))
  /-- A step of the setup failed. -/
  | notSetUp (step : Nat) (e : RunError)
  /-- A run that had to make way for another one panicked. -/
  | panicked (p : Payload)

/-- Hold a session. -/
def Session.hold (s : Session) : Session.Result :=
  let w := s.world
  match setUp w 0 .empty s.setup with
  | .error (i, e) => .notSetUp i e
  | .ok app =>
    match (Progress.begin { world := w, runs := [] } app "main" s.spec).steps app s.acts with
    | .error p => .panicked p
    | .ok (told, p) => .told told p.world.handles

end ScriptRun.Scenario
