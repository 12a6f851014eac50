import ScriptRun.Diagnostic.Basic

/-!
# The surroundings of a run

A run reaches the world through a few functions: the host takes output and keeps a session, the
stream layer reads and removes raw files, the sink takes diagnostics. Each may look at and change
the world, a value of a type `σ`; host and streams may also fail or panic, but not the sink.
-/

namespace ScriptRun

variable {σ : Type}

/-- Bytes, as output and raw files hold them. -/
abbrev Bytes := List UInt8

/-- Output and session. -/
structure Host (σ : Type) where
  /-- Take some output. -/
  write : Bytes → σ → Outcome Unit × σ
  /-- Send on what has been taken. -/
  flush : σ → Outcome Unit × σ
  /-- Close the session without keeping it, and tell whether there was one. -/
  closeSession : σ → Outcome Bool × σ

/-- Why a file could not be read or removed. -/
inductive FileError where
  | notFound
  | other (text : String)
  deriving DecidableEq

/-- The result of a file operation. -/
inductive FileOutcome (α : Type) where
  | ok (a : α)
  | error (e : FileError)
  | panic (p : Payload)

/-- Raw files. -/
structure Streams (σ : Type) where
  read : String → σ → FileOutcome Bytes × σ
  remove : String → σ → FileOutcome Unit × σ

/-- Takes diagnostics. Host and streams may fail or panic, but a sink is assumed never to: taking a
diagnostic has no outcome but the world afterwards. -/
abbrev Sink (σ : Type) := Diagnostic → σ → σ

/-- What a run releases when it ends. -/
structure Resource (σ : Type) where
  dispose : σ → Outcome Unit × σ

end ScriptRun
