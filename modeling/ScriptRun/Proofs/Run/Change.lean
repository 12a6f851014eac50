import ScriptRun.Proofs.Run.Closing
import ScriptRun.Run.Execution
import Mathlib.Logic.Relation

/-!
# What can become of a run

Whatever code runs, a run changes in small steps of a few kinds. `Change` lists those that belong
to no teardown, `Move` adds those of a teardown. An operation that calls other code makes many
moves, so what holds of a run at every moment is proved once for each kind of move and never for
an operation.

A teardown begins only where none has begun. From then on code makes changes and no other moves:
to tear down again does nothing.
-/

namespace ScriptRun

open Relation

variable {κ σ : Type}

/-! ### Changes -/

/-- An event that leaves no trace but the one in the journal. -/
def Event.isNote : Event κ → Bool
  | .handled _ | .wrote _ | .flushed | .closed => true
  | _ => false

/-- What a run sets going besides scripts and teardown. -/
def Step.isAside : Step κ → Bool
  | .autoload _ | .write _ | .read _ => true
  | _ => false

/-- The smallest things that code can make of a run, teardown apart. -/
inductive Change (s : Setting κ σ) (r : Run κ σ) : Run κ σ → Prop
  | world (w : σ) : Change s r { r with world := w }
  | globals (b : Bindings) : Change s r { r with globals := b }
  | handler (h : Option κ) : Change s r { r with handler := h }
  | note (e : Event κ) (h : e.isNote = true) : Change s r (r.record e)
  | report (d : Diagnostic) : Change s r (r.report s d)
  | declareFunction (f : FunctionDecl κ) : Change s r (r.declareFunction f).2
  | declareType (d : TypeDecl) : Change s r (r.declareType d).2
  | declareAlias (d : TypeDecl) (further : String) : Change s r (r.declareAlias d further).2
  | declareConstant (c : Constant) : Change s r (r.declareConstant s c).2
  /-- Something is set going, which takes a run that is not disposed. -/
  | began (step : Step κ) (h : step.isAside = true) (hr : r.isDisposed = false) :
    Change s r (r.record (.began step))
  | script (u : ScriptUnit κ) (hr : r.isDisposed = false) :
    Change s r ((r.beginRunning.mark u).record (.began (.script u.index)))
  | markIncluded (u : ScriptUnit κ) : Change s r (r.markIncluded u)
  | onShutdown (code : κ) : Change s r (r.onShutdown code)
  | keep (resource : Resource σ) : Change s r (r.keep resource).2
  | handBack (id : Nat) : Change s r (r.handBack id).2
  | track (path : String) : Change s r (r.track path).2
  | untrack (path : String) : Change s r (r.untrack path).2

/-- Any number of changes. -/
abbrev Changes (s : Setting κ σ) : Run κ σ → Run κ σ → Prop := ReflTransGen (Change s)

/-! ### Moves -/

/-- The smallest things that can become of a run. -/
inductive Move (s : Setting κ σ) (r : Run κ σ) : Run κ σ → Prop
  | change {r' : Run κ σ} (h : Change s r r') : Move s r r'
  | tearDown (hr : r.isTorn = false) : Move s r r.tornDown
  /-- The next callback is called. -/
  | callback (code : κ) (rest : List κ) (hr : r.lifecycle = .shuttingDown)
    (hc : r.callbacks = code :: rest) :
    Move s r (r.calling code rest)
  /-- A callback has come back. -/
  | concluded (o : Outcome Unit) (hr : r.lifecycle = .shuttingDown) :
    Move s r (r.settle s "shutdown callback" o)
  /-- No callback is left: all else that a teardown does, which calls no code of the run. -/
  | close (hr : r.lifecycle = .shuttingDown) (hc : r.callbacks = []) : Move s r (r.closed s)

/-- Any number of moves. -/
abbrev Moves (s : Setting κ σ) : Run κ σ → Run κ σ → Prop := ReflTransGen (Move s)

end ScriptRun
