import ScriptRun.Run.Declare
import ScriptRun.Path.Scheme

/-!
# Inclusion

A path leads to a script by its scheme's handler if it has a scheme, and by the resolver otherwise.
The script is marked before its code runs, so that a script that includes itself once finds itself
included.

A path that leads to no script is tried as a raw file, whose content goes to the output as it is.
-/

namespace ScriptRun.Run

variable {κ σ : Type} (s : Setting κ σ) (call : Invoke κ σ)

/-! ### Resolution -/

/-- Carry out a search, given how paths are resolved in turn. -/
def search (resolve : String → Option String → Run κ σ → Option (Found κ × Run κ σ)) :
    Search κ σ → Run κ σ → Option (Found κ × Run κ σ)
  | .done result, r => some (result, r)
  | .look next, r => search resolve (next r) r
  | .act f next, r => search resolve next { r with world := f r.world }
  | .resolve path dir next, r =>
    match resolve path dir r with
    | none => none
    | some (found, r) => search resolve (next found) r

/-- The script that a path leads to, asked for from directory `dir`. Scheme handlers may resolve
paths in turn, `fuel` deep. -/
def resolveScript (fuel : Nat) (path : String) (dir : Option String) (r : Run κ σ) :
    Option (Found κ × Run κ σ) :=
  match Path.cutScheme? path with
  | none => some (.ok (s.resolver.resolve? s.app.scripts path dir), r)
  | some (scheme, rest) =>
    match s.app.handler? scheme with
    | none => some (.ok none, r)
    | some handler =>
      match fuel with
      | 0 => none
      | fuel + 1 => search (resolveScript fuel) (s.search handler dir rest) r

/-! ### Inclusion -/

/-- A run that has begun to execute a script has left its first state. -/
def beginRunning (r : Run κ σ) : Run κ σ :=
  match r.lifecycle with
  | .created => { r with lifecycle := .running }
  | _ => r

/-- Mark a script as included, unless the run is disposed. -/
def mark (u : ScriptUnit κ) (r : Run κ σ) : Run κ σ :=
  if r.isDisposed then r else { r with included := r.included.mark u }

/-- Whether a script has not been included yet. -/
def isNew (u : ScriptUnit κ) (r : Run κ σ) : Bool := !r.included.has u

/-- Mark a script as included that someone else executes. -/
def markIncluded (u : ScriptUnit κ) (r : Run κ σ) : Run κ σ :=
  if r.isDisposed then r else (r.mark u).record (.marked u.index)

/-- Execute a script. -/
def execute (u : ScriptUnit κ) (q : Request) (vars : Variables) (r : Run κ σ) :
    Option (Outcome Value × Variables × Run κ σ) :=
  call u.body .none (some { unit := u, this := q.this, selfType := q.selfType }) vars
    ((r.beginRunning.mark u).record (.began (.script u.index)))

/-- The warning about an inclusion that leads nowhere. -/
def inclusionFailed (path : String) : Diagnostic :=
  (Diagnostic.make .warning Diagnostic.scriptInclusionFailed
    ("Failed opening '" ++ path ++ "' for inclusion")).withFile path

/-- Read a raw file. -/
def readRaw (path : String) (r : Run κ σ) : FileOutcome Bytes × Run κ σ :=
  let (o, world) := s.streams.read path r.world
  (o, { r with world }.record (.began (.read path)))

/-- Write the content of a raw file to the output. -/
def writeRaw (data : Bytes) (r : Run κ σ) : Outcome Unit × Run κ σ :=
  let (o, world) := s.host.write data r.world
  (o, { r with world }.record (.began (.write data)))

/-- Include what leads to no script. -/
def includeRaw (q : Request) (r : Run κ σ) : Outcome Value × Run κ σ :=
  match r.readRaw s (s.resolver.rawPath q.path q.dir) with
  | (.ok data, r) =>
    let (o, r) := r.writeRaw s data
    (o.map fun _ => .null, r)
  | (.panic p, r) => (.panic p, r)
  | (.error _, r) =>
    if q.require then
      let e := RunError.scriptNotFound q.path
      (.error e, r.report s (e.toDiagnostic.withFile q.path))
    else (.ok (.bool false), r.report s (inclusionFailed q.path))

/-- Include a script on some variables. -/
def includeScript (fuel : Nat) (q : Request) (vars : Variables) (r : Run κ σ) :
    Option (Outcome Value × Variables × Run κ σ) :=
  if r.isDisposed then some (.ok .null, vars, r)
  else
    match resolveScript s fuel q.path q.dir r with
    | none => none
    | some (.error p, r) => some (.panic p, vars, r)
    | some (.ok none, r) =>
      let (o, r) := r.includeRaw s q
      some (o, vars, r)
    | some (.ok (some u), r) =>
      if q.once && r.included.has u then some (.ok (.bool true), vars, r)
      else execute call u q vars r

/-- Include a script on the variables of the run. -/
def includeGlobal (fuel : Nat) (path : String) (once require : Bool) (r : Run κ σ) :
    Option (Outcome Value × Run κ σ) :=
  let q := { Request.of path with once, require }
  (includeScript s call fuel q .global r).map fun (o, _, r) => (o, r)

/-! ### Errors that nothing else caught -/

/-- Offer an error to the exception handler, which is out of its place meanwhile. It returns there
unless another one has been installed. Answers whether there was one. -/
def offerError (e : RunError) (r : Run κ σ) : Option (Outcome Bool × Run κ σ) :=
  match r.handler with
  | none => some (.ok false, r)
  | some handler =>
    match call handler (.caught e) none .global
        ({ r with handler := none }.record (.handled e)) with
    | none => none
    | some (.panic p, _, r) => some (.panic p, r)
    | some (o, _, r) =>
      some (o.map fun _ => true, { r with handler := r.handler.or (some handler) })

/-- Run the entry script of the program. An error that the exception handler takes care of leaves
`null`. -/
def runEntry (fuel : Nat) (path : String) (r : Run κ σ) : Option (Outcome Value × Run κ σ) :=
  match includeGlobal s call fuel path true true r with
  | none => none
  | some (.error e, r) =>
    (offerError call e r).map fun (o, r) =>
      (o.bind fun taken => if taken then .ok .null else .error e, r)
  | some (o, r) => some (o, r)

end ScriptRun.Run
