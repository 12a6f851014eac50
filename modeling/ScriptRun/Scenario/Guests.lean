import ScriptRun.Scenario.World
import ScriptRun.Run.Execution

/-!
# Actions as guest code

Every body of a scenario stands for guest code. An action asks the run for its operation; its answer
is logged under the place of the body, an error ends the body unless it is caught, and a panic ends
it without a trace in the log.
-/

namespace ScriptRun.Scenario

/-- Guest code of a scenario. -/
abbrev Script := Guest Code World

/-- What a body is run with: its place, if it is logged, and its arguments. -/
structure Frame where
  place : Option String
  args : List Value

/-! ### Combinators -/

/-- Look at the run and the world, and answer. -/
def answering (f : View Code World → Answer) (next : Outcome Answer → Script) : Script :=
  .look fun v => next (.ok (f v))

/-- Whether a type is alive while a run is under way. -/
def isAlive (r : Run Code World) (tag : Tag) : Bool := r.types.keeps tag || r.world.keeps tag

/-- The answer that shows a type as it stands now. -/
def typeAnswer (r : Run Code World) (d : TypeDecl) : Answer := .type (d.amid (isAlive r))

/-- Ask for an operation and go on without an answer. -/
def after (op : Op Code World) (next : Script) : Script := .ask op fun _ => next

/-- Go on with a function that is known under a handle. -/
def withFunction (id : String) (next : FunctionDecl Code → Script) : Script :=
  .look fun v => next ((v.run.world.functions.lookup id).getD
    { tag := ⟨0⟩, name := id, unit := none, body := .body "" [] })

/-- Go on with a type that is known under a handle. -/
def withType (id : String) (next : TypeDecl → Script) : Script :=
  .look fun v => next ((v.run.world.types.lookup id).getD
    { tag := ⟨0⟩, name := id, autoload := true, base := none })

/-- Go on with a type as it stands now, if there is a handle that leads to it. -/
def withTypeOf (id : Option String) (next : Option TypeDecl → Script) : Script :=
  .look fun v =>
    next ((id.bind fun i => v.run.world.types.lookup i).map (·.amid (isAlive v.run)))

/-- Ask for an operation, and have a type in use until what it answered has been told. -/
def askUsing (d : Option TypeDecl) (op : Op Code World)
    (tell : Run Code World → op.Answer → Outcome Answer) (next : Outcome Answer → Script) :
    Script :=
  after (.act (·.use d)) <| .ask op fun a => .look fun v =>
    after (.act (·.unuse d)) (next (tell v.run a))

/-! ### Inclusions -/

/-- The request of an inclusion inside of some context, which it inherits from if `shared`. -/
def InclusionSpec.request (q : InclusionSpec) (shared : Bool)
    (context : Option (ScriptContext Code)) (types : List (String × TypeDecl)) : Request :=
  let plain :=
    match if shared then context else none with
    | some context => Request.within context q.path
    | none => Request.of q.path
  { path := q.path
    dir := q.dir.getD plain.dir
    once := q.once
    require := q.require
    this := q.this.getD plain.this
    selfType :=
      match q.selfType with
      | some id => id.bind fun i => types.lookup i
      | none => plain.selfType }

/-- Carry out an inclusion. -/
def InclusionSpec.script (q : InclusionSpec) (next : Outcome Answer → Script) : Script :=
  .look fun v =>
    let request (shared : Bool) := q.request shared v.context v.run.world.types
    match q.mode.getD (if v.context.isSome then .shared else .lent) with
    | .global => .ask (.includeGlobal q.path q.once q.require) fun o => next (o.map .value)
    | .shared => .ask (.includeShared (request true)) fun o => next (o.map .value)
    | .lent =>
      .ask (.includeLending (request false) q.bindings) fun (o, bindings) =>
        next (o.map fun value => .record [("v", .value value), ("locals", .bindings bindings)])

/-! ### Deeds -/

/-- How far a run has come, in a word. -/
def stateWord : Lifecycle → String
  | .created => "created"
  | .running => "running"
  | .shuttingDown => "shutting_down"
  | .disposed => "disposed"

/-- What a script can tell of its inclusion. -/
def infoAnswer (v : View Code World) : Answer :=
  match v.context with
  | none => .null
  | some context =>
    .record [("dir", .text context.unit.directory), ("global", .bool v.isGlobal),
      ("unit", .unit context.unit), ("this", .optional context.this),
      ("self_type", .ofOption (fun d : TypeDecl => .handle d.tag) context.selfType)]

/-- How many of everything there are. -/
def countsAnswer (app : Application Code) (r : Run Code World) : Answer :=
  .record [("functions", .num r.functions.size), ("types", .num r.types.size),
    ("constants", .num r.constants.size), ("scripts", .num app.scripts.size),
    ("app_functions", .num app.functions.size), ("app_types", .num app.types.size),
    ("app_constants", .num app.constants.size)]

/-- The next higher number; what is no number counts as zero. -/
def incremented : Option Value → Int64
  | some (.int i) => i + 1
  | _ => 1

/-- Call a function. -/
def callFunction (f : FunctionDecl Code) (args : List Value) (next : Outcome Answer → Script) :
    Script :=
  .ask (.call f.body (.args args)) fun o => next (o.map .value)

/-- Call a function that may be missing. -/
def callOrUndefined (f : Option (FunctionDecl Code)) (args : List Value)
    (next : Outcome Answer → Script) : Script :=
  match f with
  | some f => callFunction f args next
  | none => next (.ok (.text "undefined"))

/-- The answer of a search. -/
def foundAnswer : Found Code → Outcome Answer
  | .ok u => .ok (.ofOption .unit u)
  | .error p => .panic p

/-- Do what an action asks for, and go on with its answer. -/
def Deed.script (app : Application Code) (options : Options) (resolver : Resolver) (frame : Frame)
    (deed : Deed) (next : Outcome Answer → Script) : Script :=
  let script? (path : String) (go : Option (ScriptUnit Code) → Script) : Script :=
    go (app.scripts.lookup? path)
  let say (a : Answer) : Script := next (.ok a)
  match deed with
  | .log t => say (.text t)
  | .set name v => after (.assign (·.insert name v)) (say .null)
  | .unset name =>
    .look fun v => after (.assign (·.erase name)) (say (.optional (v.vars.get? name)))
  | .get name => answering (fun v => .optional (v.vars.get? name)) next
  | .incr name =>
    .look fun v =>
      let value : Value := .int (incremented (v.vars.get? name))
      after (.assign (·.insert name value)) (say (.value value))
  | .vars => answering (fun v => .bindings v.vars) next
  | .globals => answering (fun v => .bindings v.run.globals) next
  | .args => say (.ofList .value frame.args)
  | .info => answering infoAnswer next
  | .fail e => next (.error e)
  | .panic p => next (.panic p)
  | .inclusion q => q.script next
  | .runEntry path => .ask (.runEntry path) fun o => next (o.map .value)
  | .resolveScript path dir => .ask (.resolveScript path dir) fun found => next (foundAnswer found)
  | .checkOnce path =>
    script? path fun
      | some u => answering (fun v => .bool (v.run.isNew u)) next
      | none => say .null
  | .onInclude path =>
    script? path fun
      | some u => after (.markIncluded u) (say (.bool true))
      | none => say (.bool false)
  | .included =>
    answering (fun v => .ofList (fun u => .text u.path) (v.run.included.listed app.scripts)) next
  | .newFunction id name unit body =>
    after (.act (·.makeFunction id name unit (.body ("fn:" ++ id) body))) (say .null)
  | .newType spec => after (.act (·.makeType spec)) (say .null)
  | .declareFunction id =>
    withFunction id fun f => .ask (.declareFunction f) fun o => next (o.map fun _ => .null)
  | .declareType id =>
    withType id fun d => .ask (.declareType d) fun o => next (o.map fun _ => .null)
  | .declareAlias id a =>
    withType id fun d => .ask (.declareAlias d a) fun o => next (o.map fun _ => .null)
  | .lookupFunction name =>
    answering (fun v => .ofOption .function (v.run.functions.lookup? name)) next
  | .functionAt i => answering (fun v => .ofOption .function (v.run.functions.at? i)) next
  | .functionIndex name =>
    answering (fun v => .ofOption .num (v.run.functions.index? name)) next
  | .checkFunction i id =>
    withFunction id fun f => answering (fun v => .bool (v.run.isFunctionAt i f.tag)) next
  | .demandFunction id =>
    withFunction id fun f => .look fun v => next ((v.run.demandFunction f).map fun _ => .null)
  | .functions => answering (fun v => .ofList .function v.run.functions.toList) next
  | .functionShown id => withFunction id fun f => say (.text f.shown)
  | .call (.handle id) values => withFunction id fun f => callFunction f values next
  | .call (.name name) values =>
    .look fun v => callOrUndefined (v.run.functions.lookup? name) values next
  | .call (.place i) values => .look fun v => callOrUndefined (v.run.functions.at? i) values next
  | .lookupType name =>
    answering (fun v => .ofOption (typeAnswer v.run) (v.run.types.lookup? name)) next
  | .resolveType name caller autoload =>
    withTypeOf caller fun c =>
      askUsing c (.resolveType name c autoload)
        (fun r o => o.map (.ofOption (typeAnswer r))) next
  | .needType name caller autoload =>
    withTypeOf caller fun c =>
      askUsing c (.needType name c autoload) (fun r o => o.map (typeAnswer r)) next
  | .ensureType id =>
    withType id fun d =>
      askUsing (some d) (.ensureType d) (fun _ o => o.map fun _ => .null) next
  | .aliases id =>
    withType id fun d => answering (fun v => .ofList .text (v.run.types.aliases d)) next
  | .types => answering (fun v => .ofList (typeAnswer v.run) v.run.types.toList) next
  | .declareConstant c => .ask (.declareConstant c) fun b => say (.bool b)
  | .constant name => answering (fun v => .ofOption .constant (v.run.constants.lookup? name)) next
  | .constants => answering (fun v => .ofList .constant v.run.constants.toList) next
  | .write t => .ask (.write (Text.encode t)) fun o => next (o.map fun _ => .null)
  | .writeBytes data => .ask (.write data) fun o => next (o.map fun _ => .null)
  | .flush => .ask .flush fun o => next (o.map fun _ => .null)
  | .closeSession => .ask .closeSession fun o => next (o.map .bool)
  | .onShutdown id body => after (.onShutdown (.body ("cb:" ++ id) body)) (say .null)
  | .keep id mishap =>
    .ask (.keep (resource id mishap)) fun
      | some n =>
        after (.act fun w => { w with resources := (id, n) :: w.resources }) (say (.bool true))
      | none => say (.bool false)
  | .handBack id disposing =>
    .look fun v =>
      match v.run.world.resources.lookup id with
      | none => say (.bool false)
      | some n =>
        .ask (.handBack n) fun
          | none => say (.bool false)
          | some kept =>
            if disposing then
              .look fun v =>
                let (o, w) := kept.dispose v.run.world
                after (.act fun _ => w) (next (o.map fun _ => .bool true))
            else say (.bool true)
  | .track path => .ask (.track path) fun b => say (.bool b)
  | .untrack path => .ask (.untrack path) fun b => say (.bool b)
  | .isTemporary path => answering (fun v => .bool (v.run.isTemporary path)) next
  | .setHandler id body =>
    .ask (.setHandler (.body ("handler:" ++ id) body)) fun previous => say (.bool previous.isSome)
  | .clearHandler => .ask .clearHandler fun previous => say (.bool previous.isSome)
  | .offerError e => .ask (.offerError e) fun o => next (o.map .bool)
  | .report d => after (.report d) (say .null)
  | .dispose => .ask .dispose fun o => next (o.map fun _ => .null)
  | .state =>
    answering (fun v => .list [.text (stateWord v.run.lifecycle), .bool v.run.isDisposed]) next
  | .options => say (.options options)
  | .resolver => say (.list [.text resolver.root, .text resolver.workingDir])
  | .hasScheme name => say (.bool (app.handler? name).isSome)
  | .counts => answering (fun v => countsAnswer app v.run) next
  | .shown => .look fun v => say (.text (v.run.shown options))
  | .appShown => say (.text app.shown)

/-! ### Bodies -/

section Body

variable (app : Application Code) (options : Options) (resolver : Resolver) (frame : Frame)

/-- Log the answer of an action. -/
def logged (label : String) (a : Answer) (next : Script) : Script :=
  match frame.place with
  | some place => after (.act (·.note (.action place label a))) next
  | none => next

mutual

/-- Carry out an action, then `next`. -/
def Action.script : Action → Script → Script
  | .act label caught deed, next =>
    deed.script app options resolver frame fun
      | .ok a => logged frame label a next
      | .error e => logged frame label (.error e) (if caught then next else .done (.error e))
      | .panic p => .done (.panic p)
  | .ret v, _ => .done (.ok v)
  | .retVar name, _ => .look fun v => .done (.ok ((v.vars.get? name).getD .null))
  | .branch name value yes no, next =>
    .look fun v =>
      if ((v.vars.get? name).getD .null).same value then bodyScript yes next
      else bodyScript no next

/-- Carry out actions in turn, then `next`. -/
def bodyScript : List Action → Script → Script
  | [], next => next
  | a :: rest, next => a.script (bodyScript rest next)

end

/-- A whole body. The type inside of which a script is included is in use until the body ends. -/
def wholeBody (actions : List Action) : Script :=
  let body := bodyScript app options resolver frame actions (.done (.ok .null))
  .look fun v =>
    match v.context.bind (·.selfType) with
    | none => body
    | some d =>
      after (.act (·.use d)) (body.andThen fun o => after (.act (·.unuse d)) (.done o))

end Body

/-! ### Labels -/

/-- What the labels of a scenario stand for. -/
def code (app : Application Code) (options : Options) (resolver : Resolver) :
    Code → Input → Script
  | .body place actions, .args values =>
    wholeBody app options resolver ⟨some place, values⟩ actions
  | .body place actions, .caught e =>
    after (.act (·.note (.caught place e)))
      (wholeBody app options resolver ⟨some place, []⟩ actions)
  | .body place actions, _ => wholeBody app options resolver ⟨some place, []⟩ actions
  | .autoload body, .name name =>
    after (.act (·.note (.autoload name)))
      (wholeBody app options resolver ⟨some ("autoload:" ++ name), []⟩ (body name))
  | _, _ => .done (.ok .null)

/-- What the labels of scheme handlers stand for. -/
def search (app : Application Code) (label : Code) (dir : Option String) (path : String) :
    Search Code World :=
  let noted (scheme : String) (next : Search Code World) : Search Code World :=
    .act (·.note (.scheme scheme dir path)) next
  match label with
  | .schemePrefix scheme front => noted scheme (.done (.ok (app.scripts.lookup? (front ++ path))))
  | .schemeDir scheme =>
    noted scheme (.done (.ok (app.scripts.lookup? (Path.under (dir.getD "") path))))
  | .schemeResolve scheme => noted scheme (.resolve path dir .done)
  | .schemeNone scheme => noted scheme (.done (.ok none))
  | _ => .done (.ok none)

/-- The setting of a run over an application. -/
def RunSpec.setting (spec : RunSpec) (app : Application Code) (run : String) :
    Setting Code World :=
  let o := spec.options
  { app
    options := o
    host := spec.host run
    streams := spec.streams run
    sink := spec.sink run
    autoload := spec.autoload.map .autoload
    code := code app o (.ofSettings o.root o.includePaths o.workingDir)
    search := search app }

end ScriptRun.Scenario
