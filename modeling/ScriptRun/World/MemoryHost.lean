import ScriptRun.World.Host
import ScriptRun.Text.Utf8

/-!
# Surroundings in memory

A host that keeps its output in memory until it is flushed, with one session, and a sink that keeps
the diagnostics it is given.
-/

namespace ScriptRun

variable {σ : Type}

/-! ### Host -/

/-- A host that keeps output in memory. -/
structure MemoryHost where
  flushed : Bytes
  pending : Bytes
  sessionActive : Bool
  sessionsClosed : Nat

namespace MemoryHost

/-- A host without output, with or without an open session. -/
def new (session : Bool) : MemoryHost :=
  { flushed := [], pending := [], sessionActive := session, sessionsClosed := 0 }

/-- All output taken so far, in order. -/
def taken (h : MemoryHost) : Bytes := h.flushed ++ h.pending

/-- Take output. -/
def write (h : MemoryHost) (data : Bytes) : MemoryHost :=
  { h with pending := h.pending ++ data }

/-- Send on what is pending. -/
def flush (h : MemoryHost) : MemoryHost :=
  { h with flushed := h.flushed ++ h.pending, pending := [] }

/-- Close the session if there is one. -/
def closeSession (h : MemoryHost) : Bool × MemoryHost :=
  if h.sessionActive then
    (true, { h with sessionActive := false, sessionsClosed := h.sessionsClosed + 1 })
  else (false, h)

@[simp] theorem taken_write (h : MemoryHost) (data : Bytes) :
    (h.write data).taken = h.taken ++ data := by
  simp [taken, write]

@[simp] theorem taken_flush (h : MemoryHost) : h.flush.taken = h.taken := by
  simp [taken, flush]

@[simp] theorem taken_closeSession (h : MemoryHost) : h.closeSession.2.taken = h.taken := by
  unfold closeSession; split <;> rfl

/-- The output sent on so far, as text. -/
def output (h : MemoryHost) : String := Text.decodeLossy h.flushed

/-- The output still pending, as text. -/
def pendingText (h : MemoryHost) : String := Text.decodeLossy h.pending

/-- The hooks of a buffered host that is kept somewhere in the world. None of them fails. -/
def hooks (get : σ → MemoryHost) (set : MemoryHost → σ → σ) : Host σ where
  write data w := (.ok (), set ((get w).write data) w)
  flush w := (.ok (), set (get w).flush w)
  closeSession w := (.ok (get w).closeSession.1, set (get w).closeSession.2 w)

end MemoryHost

/-! ### Sink -/

/-- A sink that keeps what it is given, in order. -/
structure DiagnosticLog where
  entries : List Diagnostic

namespace DiagnosticLog

/-- Nothing has been given. -/
def empty : DiagnosticLog := ⟨[]⟩

/-- Keep a diagnostic. -/
def report (s : DiagnosticLog) (d : Diagnostic) : DiagnosticLog := ⟨s.entries ++ [d]⟩

end DiagnosticLog

end ScriptRun
