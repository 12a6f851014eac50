import ScriptRun.Run.Teardown
import Mathlib.Tactic.Lemma

/-!
# Reading a journal

The journal of a run lists what happened to it, the earliest first. Statements about whole runs
pick out of it the events of one kind, in their order: the callbacks that were accepted, the
callbacks that were begun, the numbers that were issued, and so on.

Most events concern neither what a run has to release in the end nor the release itself. Every
reader of the books passes over those.
-/

namespace ScriptRun

variable {κ σ : Type}

/-! ### Kinds of events -/

namespace Event

/-- Whether an event is a step of teardown, at its beginning or at its end. -/
def ofTeardown : Event κ → Bool
  | .began (.callback _) | .began (.dispose _) | .began .closeSession | .began .flush
  | .began (.remove _) | .concluded _ _ => true
  | _ => false

/-- Whether an event concerns what is released or deleted in the end. -/
def ofBooks : Event κ → Bool
  | .queued _ | .kept _ | .handedBack _ | .tracked _ | .untracked _ => true
  | e => e.ofTeardown

def queued? : Event κ → Option κ
  | .queued code => some code
  | _ => none

def callback? : Event κ → Option κ
  | .began (.callback code) => some code
  | _ => none

def kept? : Event κ → Option Nat
  | .kept id => some id
  | _ => none

def handedBack? : Event κ → Option Nat
  | .handedBack id => some id
  | _ => none

def disposed? : Event κ → Option Nat
  | .began (.dispose id) => some id
  | _ => none

def removed? : Event κ → Option String
  | .began (.remove path) => some path
  | _ => none

/-- What an event says about whether a file is to be deleted, however its path is spelled there. -/
def tracking? (path : String) : Event κ → Option Bool
  | .tracked p => if Path.samePath path p then some true else none
  | .untracked p => if Path.samePath path p then some false else none
  | _ => none

end Event

/-! ### Readers -/

section Readers

variable (events : List (Event κ))

/-- The callbacks that were accepted. -/
abbrev queuedIn : List κ := events.filterMap Event.queued?

/-- The callbacks that were begun. -/
abbrev callbacksIn : List κ := events.filterMap Event.callback?

/-- The numbers of the resources that were accepted. -/
abbrev keptIn : List Nat := events.filterMap Event.kept?

/-- The numbers of the resources that were handed back. -/
abbrev handedBackIn : List Nat := events.filterMap Event.handedBack?

/-- The numbers of the resources that were released. -/
abbrev disposedIn : List Nat := events.filterMap Event.disposed?

/-- The files whose deletion was attempted. -/
abbrev removedIn : List String := events.filterMap Event.removed?

/-- What was last said about whether a file is to be deleted; nothing if nothing was said. -/
def lastTracking (path : String) : Option Bool := (events.filterMap (Event.tracking? path)).getLast?

end Readers

/-- Events that do not concern the books leave nothing to a reader that skips each of them. -/
lemma filterMap_eq_nil_of_idle {α : Type} {f : Event κ → Option α}
    (hf : ∀ e : Event κ, e.ofBooks = false → f e = none) {l : List (Event κ)}
    (hl : ∀ e ∈ l, e.ofBooks = false) : l.filterMap f = [] :=
  List.filterMap_eq_nil_iff.2 fun e he => hf e (hl e he)

lemma Event.ofTeardown_of_ofBooks {e : Event κ} (h : e.ofBooks = false) : e.ofTeardown = false := by
  cases e with
  | began step => exact h
  | concluded step o => exact h
  | _ => rfl

/-! ### The events of a run -/

namespace Run

/-- What happened to a run, the earliest first. -/
def events (r : Run κ σ) : List (Event κ) := r.journal.toList

@[simp] lemma events_record (r : Run κ σ) (e : Event κ) :
    (r.record e).events = r.events ++ [e] := by
  simp [events, record]

end Run

section Record

variable {α : Type} {f : Event κ → Option α} {e : Event κ}

lemma filterMap_record (h : f e = none) (r : Run κ σ) :
    (r.record e).events.filterMap f = r.events.filterMap f := by
  rw [Run.events_record, List.filterMap_append, List.filterMap_cons_none h, List.filterMap_nil,
    List.append_nil]

lemma filterMap_record_some {a : α} (h : f e = some a) (r : Run κ σ) :
    (r.record e).events.filterMap f = r.events.filterMap f ++ [a] := by
  rw [Run.events_record, List.filterMap_append, List.filterMap_cons_some h, List.filterMap_nil]

end Record

end ScriptRun
