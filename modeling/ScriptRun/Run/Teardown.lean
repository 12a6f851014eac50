import ScriptRun.Run.Inclusion

/-!
# Teardown

A run ends in a fixed order: shutdown callbacks as they were registered, then the resources still
kept, then the session is closed, the output flushed, and the temporary files deleted. No step is
left out because an earlier one failed or panicked: a failed step leaves a warning, and the first
panic is raised again when all is done.
-/

namespace ScriptRun.Run

variable {κ σ : Type} (s : Setting κ σ) (call : Invoke κ σ)

/-- The warning about a step that failed. -/
def stepFailed (step text : String) : Diagnostic :=
  Diagnostic.make .warning Diagnostic.teardownStepFailed (step ++ ": " ++ text)

/-- A run in teardown, and the first panic that a step of it ended in. -/
structure Unwinding (κ σ : Type) where
  run : Run κ σ
  panicked : Option Payload

/-- The warning that a step leaves, if it did not succeed. -/
def stepWarning? (step : String) : Outcome Unit → Option Diagnostic
  | .ok _ => none
  | .error e => some (stepFailed step e.message)
  | .panic p => some (stepFailed step ("panicked: " ++ p.message))

/-- Report a step that did not succeed, and remember the first panic. -/
def Unwinding.conclude (step : String) (o : Outcome Unit) (u : Unwinding κ σ) : Unwinding κ σ :=
  let run := u.run.record (.concluded step o)
  { run :=
      match stepWarning? step o with
      | some d => run.report s d
      | none => run
    panicked := u.panicked.or o.payload? }

/-- Run the shutdown callbacks until none is left, also those that callbacks register. -/
def drain : Nat → Unwinding κ σ → Option (Unwinding κ σ)
  | fuel, u =>
    match u.run.callbacks with
    | [] => some u
    | c :: rest =>
      match fuel with
      | 0 => none
      | fuel + 1 =>
        match call c .none none .global
            ({ u.run with callbacks := rest }.record (.began (.callback c))) with
        | none => none
        | some (o, _, r) =>
          drain fuel ({ u with run := r }.conclude s "shutdown callback" o.void)

/-- Release a resource. -/
def releaseOne (u : Unwinding κ σ) (kept : Nat × Resource σ) : Unwinding κ σ :=
  let (o, world) := kept.2.dispose u.run.world
  let run := { u.run with world }.record (.began (.dispose kept.1))
  { u with run }.conclude s "dispose" o

/-- Release the resources that are kept. -/
def releaseAll (u : Unwinding κ σ) : Unwinding κ σ :=
  u.run.resources.foldl (releaseOne s) { u with run := { u.run with resources := [] } }

/-- Close the session. -/
def endSession (u : Unwinding κ σ) : Unwinding κ σ :=
  let (o, world) := s.host.closeSession u.run.world
  let run := { u.run with world }.record (.began .closeSession)
  { u with run }.conclude s "close session" o.void

/-- Flush the output. -/
def endOutput (u : Unwinding κ σ) : Unwinding κ σ :=
  let (o, world) := s.host.flush u.run.world
  let run := { u.run with world }.record (.began .flush)
  { u with run }.conclude s "flush output" o

/-- Delete a file. One that is not there is no failure. -/
def deleteOne (u : Unwinding κ σ) (path : String) : Unwinding κ σ :=
  let (o, world) := s.streams.remove path u.run.world
  let o : Outcome Unit :=
    match o with
    | .ok _ | .error .notFound => .ok ()
    | .error (.other text) => .error (.io text)
    | .panic p => .panic p
  let run := { u.run with world }.record (.began (.remove path))
  { u with run }.conclude s ("delete " ++ path) o

/-- Delete the temporary files. -/
def deleteAll (u : Unwinding κ σ) : Unwinding κ σ :=
  u.run.temporaries.foldl (deleteOne s) { u with run := { u.run with temporaries := [] } }

/-- Tear a run down, unless that has begun already. Answers the first panic. -/
def teardown (fuel : Nat) (r : Run κ σ) : Option (Option Payload × Run κ σ) :=
  match r.lifecycle with
  | .shuttingDown | .disposed => some (none, r)
  | .created | .running =>
    (drain s call fuel ⟨{ r with lifecycle := .shuttingDown }, none⟩).map fun u =>
      let u := deleteAll s (endOutput s (endSession s (releaseAll s u)))
      (u.panicked, { u.run with lifecycle := .disposed })

/-- Tear a run down and raise the first panic. -/
def dispose (fuel : Nat) (r : Run κ σ) : Option (Outcome Unit × Run κ σ) :=
  (teardown s call fuel r).map fun (panicked, r) =>
    match panicked with
    | some p => (.panic p, r)
    | none => (.ok (), r)

/-- Give a run up. A panic is swallowed while another one is under way. -/
def drop (fuel : Nat) (panicking : Bool) (r : Run κ σ) : Option (Outcome Unit × Run κ σ) :=
  (dispose s call fuel r).map fun (o, r) => (if panicking then .ok () else o, r)

end ScriptRun.Run
