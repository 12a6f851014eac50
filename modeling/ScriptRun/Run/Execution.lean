import ScriptRun.Run.Teardown

/-!
# Execution

What each operation does, and how guest code runs: every operation it asks for is performed and
answered in turn. Calls nest; how deep they may is bounded, and so is how many callbacks a teardown
may drain. Code that stays within the bounds has the same result under every larger bound.
-/

namespace ScriptRun

variable {κ σ : Type}

namespace Op

/-- Perform an operation for code in some context, on some variables. -/
def perform (s : Setting κ σ) (call : Invoke κ σ) (fuel : Nat) (op : Op κ σ) (vars : Variables)
    (r : Run κ σ) : Option (op.Answer × Variables × Run κ σ) :=
  match op with
  | act f => some ((), vars, { r with world := f r.world })
  | assign f =>
    match vars with
    | .global => some ((), vars, { r with globals := f r.globals })
    | .lent l => some ((), .lent (f l), r)
  | assignGlobals f => some ((), vars, { r with globals := f r.globals })
  | .call code input => (call code input none .global r).map fun (o, _, r) => (o, vars, r)
  | declareFunction f => let (o, r) := r.declareFunction f; some (o, vars, r)
  | declareType d => let (o, r) := r.declareType d; some (o, vars, r)
  | declareAlias d a => let (o, r) := r.declareAlias d a; some (o, vars, r)
  | declareConstant c => let (b, r) := r.declareConstant s c; some (b, vars, r)
  | resolveType name caller autoload =>
    (Run.resolveType s call name caller autoload r).map fun (o, r) => (o, vars, r)
  | needType name caller autoload =>
    (Run.needType s call name caller autoload r).map fun (o, r) => (o, vars, r)
  | ensureType d => (Run.ensureType s call d r).map fun (o, r) => (o, vars, r)
  | resolveScript path dir =>
    (Run.resolveScript s fuel path dir r).map fun (found, r) => (found, vars, r)
  | includeShared q => Run.includeScript s call fuel q vars r
  | includeLending q bindings =>
    (Run.includeScript s call fuel q (.lent bindings) r).map fun (o, lent, r) =>
      ((o, lent.bindings), vars, r)
  | includeGlobal path once require =>
    (Run.includeGlobal s call fuel path once require r).map fun (o, r) => (o, vars, r)
  | runEntry path => (Run.runEntry s call fuel path r).map fun (o, r) => (o, vars, r)
  | markIncluded u => some ((), vars, r.markIncluded u)
  | onShutdown code => some ((), vars, r.onShutdown code)
  | keep resource => let (id, r) := r.keep resource; some (id, vars, r)
  | handBack id => let (resource, r) := r.handBack id; some (resource, vars, r)
  | track path => let (b, r) := r.track path; some (b, vars, r)
  | untrack path => let (b, r) := r.untrack path; some (b, vars, r)
  | setHandler code => let (previous, r) := r.setHandler code; some (previous, vars, r)
  | clearHandler => let (previous, r) := r.clearHandler; some (previous, vars, r)
  | offerError e => (Run.offerError call e r).map fun (o, r) => (o, vars, r)
  | report d => some ((), vars, r.report s d)
  | write data =>
    let (o, world) := s.host.write data r.world
    some (o, vars, { r with world }.record (.wrote data))
  | flush =>
    let (o, world) := s.host.flush r.world
    some (o, vars, { r with world }.record .flushed)
  | closeSession =>
    let (o, world) := s.host.closeSession r.world
    some (o, vars, { r with world }.record .closed)
  | dispose => (Run.dispose s call fuel r).map fun (o, r) => (o, vars, r)

end Op

namespace Guest

/-- What code in some context sees. -/
def view (context : Option (ScriptContext κ)) (vars : Variables) (r : Run κ σ) : View κ σ :=
  match vars with
  | .global => { run := r, context, isGlobal := true, vars := r.globals }
  | .lent l => { run := r, context, isGlobal := false, vars := l }

/-- Run guest code, given how labels are called. -/
def exec (s : Setting κ σ) (call : Invoke κ σ) (fuel : Nat) (context : Option (ScriptContext κ)) :
    Guest κ σ → Variables → Run κ σ → Option (Outcome Value × Variables × Run κ σ)
  | done result, vars, r => some (result, vars, r)
  | look next, vars, r => exec s call fuel context (next (view context vars r)) vars r
  | ask op next, vars, r =>
    match op.perform s call fuel vars r with
    | none => none
    | some (answer, vars, r) => exec s call fuel context (next answer) vars r

end Guest

/-- Call a label, with calls nested at most `depth` deep. -/
def Setting.invoke (s : Setting κ σ) (depth : Nat) : Invoke κ σ :=
  fun label input context vars r =>
    match depth with
    | 0 => none
    | depth + 1 => (s.code label input).exec s (s.invoke depth) depth context vars r

/-- Run guest code that belongs to no script, as a host does from outside. -/
def Setting.run (s : Setting κ σ) (depth : Nat) (g : Guest κ σ) (r : Run κ σ) :
    Option (Outcome Value × Run κ σ) :=
  (g.exec s (s.invoke depth) depth none .global r).map fun (o, _, r) => (o, r)

/-- Begin a run: the constant `SERVER_API` is declared, and command-line arguments, if any, become
the global variables `argv` and `argc`. -/
def Setting.start (s : Setting κ σ) (args : Option (List String)) (w : σ) : Run κ σ :=
  let api := Value.str s.options.serverApi
  let r := ((Run.blank s.app w).declareConstant s ⟨"SERVER_API", api, false⟩).2
  match args with
  | none => r
  | some args =>
    { r with
      globals := (r.globals.insert "argv" (.array (args.map .str))).insert "argc"
        (.int (Int64.ofNat args.length)) }

/-- A run as it is shown for inspection. -/
def Run.shown (options : Options) (r : Run κ σ) : String :=
  let state :=
    match r.lifecycle with
    | .created => "Created"
    | .running => "Running"
    | .shuttingDown => "ShuttingDown"
    | .disposed => "Disposed"
  "RunContext \x7b state: " ++ state ++ ", options: " ++ options.shown
    ++ ", routines: " ++ toString r.functions.size
    ++ ", types: " ++ toString r.types.size
    ++ ", constants: " ++ toString r.constants.size
    ++ ", shutdown_callbacks: " ++ toString r.callbacks.length
    ++ ", disposables: " ++ toString r.resources.length
    ++ ", temporary_files: " ++ toString r.temporaries.length ++ " \x7d"

end ScriptRun
