import Mathlib.Data.List.Basic
import ScriptRun.World.MemoryHost

/-!
# Calls on a host in memory

Whatever is called on a host in memory, and in which order: what it has sent on and what is pending
make up the output of the calls so far, one after the other. What has been sent on only grows at its
end. A session is closed by the first call that closes it, and never again.
-/

namespace ScriptRun

/-- A call on a host. -/
inductive HostCall where
  | write (data : Bytes)
  | flush
  | closeSession
  deriving DecidableEq

/-- The output that a call hands over. -/
def HostCall.output : HostCall → Bytes
  | write data => data
  | flush | closeSession => []

namespace MemoryHost

/-- Answer a call. -/
def serve (h : MemoryHost) : HostCall → MemoryHost
  | .write data => h.write data
  | .flush => h.flush
  | .closeSession => h.closeSession.2

/-- Answer calls in turn. -/
def after (h : MemoryHost) (cs : List HostCall) : MemoryHost := cs.foldl serve h

variable (h : MemoryHost) (c : HostCall) (cs cs' : List HostCall)

@[simp] lemma after_nil : h.after [] = h := rfl

@[simp] lemma after_cons : h.after (c :: cs) = (h.serve c).after cs := rfl

@[simp] lemma after_append : h.after (cs ++ cs') = (h.after cs).after cs' := List.foldl_append

/-! ### Output -/

@[simp] lemma taken_serve : (h.serve c).taken = h.taken ++ c.output := by
  cases c <;> simp [serve, HostCall.output]

/-- All output is kept, in the order of the calls that handed it over. -/
lemma taken_after : (h.after cs).taken = h.taken ++ cs.flatMap HostCall.output := by
  induction cs generalizing h with
  | nil => simp
  | cons c cs ih => simp [ih]

lemma flushed_prefix_serve : h.flushed <+: (h.serve c).flushed := by
  cases c with
  | write data => exact List.prefix_rfl
  | flush => exact List.prefix_append _ _
  | closeSession =>
    rw [serve, MemoryHost.closeSession]
    split <;> exact List.prefix_rfl

/-- What has been sent on stays as it is, and more comes behind it. -/
lemma flushed_prefix_after : h.flushed <+: (h.after cs).flushed := by
  induction cs generalizing h with
  | nil => exact List.prefix_rfl
  | cons c cs ih => exact (h.flushed_prefix_serve c).trans (ih (h.serve c))

/-! ### Session -/

/-- How often the session has been closed, and once more if it still can be. -/
def closable (h : MemoryHost) : Nat := h.sessionsClosed + h.sessionActive.toNat

@[simp] lemma closable_serve : (h.serve c).closable = h.closable := by
  cases c with
  | write | flush => rfl
  | closeSession =>
    rw [serve, MemoryHost.closeSession]
    cases hs : h.sessionActive <;> simp [closable, hs]

lemma closable_after : (h.after cs).closable = h.closable := by
  induction cs generalizing h with
  | nil => rfl
  | cons c cs ih => rw [after_cons, ih, closable_serve]

lemma sessionActive_serve :
    (h.serve c).sessionActive = (h.sessionActive && c != .closeSession) := by
  cases c with
  | write data => simp [serve, write]
  | flush => simp [serve, flush]
  | closeSession =>
    rw [serve, MemoryHost.closeSession]
    cases hs : h.sessionActive <;> simp [hs]

lemma sessionActive_after :
    (h.after cs).sessionActive = (h.sessionActive && !cs.contains .closeSession) := by
  induction cs generalizing h with
  | nil => simp
  | cons c cs ih =>
    rw [after_cons, ih, sessionActive_serve, List.contains_cons, Bool.not_or, Bool.and_assoc,
      BEq.comm, bne]

end MemoryHost

end ScriptRun
