import ScriptRun.Diagnostic.Basic
import ScriptRun.Json.Reader

/-!
# Diagnostics for other programs

A diagnostic as a JSON object: version, level, code, message, file, then the notes if there are any
and the help if there is one. Reading takes a member that is left out for one that is empty.
-/

namespace ScriptRun.Diagnostic

/-- A diagnostic as an object. -/
def toJson (d : Diagnostic) : Json :=
  .obj <|
    [("diag_version", .num d.version.toNat), ("level", .str d.level.word), ("code", .str d.code),
      ("message", .str d.message), ("file", .str d.file)]
    ++ (if d.notes.isEmpty then [] else [("notes", .arr (d.notes.map .str))])
    ++ (match d.help with
      | some h => [("help", .str h)]
      | none => [])

/-- The indented text of a diagnostic. -/
def toJsonText (d : Diagnostic) : String := d.toJson.toIndented

/-- The compact text of a diagnostic. -/
def toJsonLine (d : Diagnostic) : String := d.toJson.toCompact

/-- The version that a number stands for, if it is in range. -/
def version? (n : Nat) : Option UInt32 :=
  if n < UInt32.size then some (.ofNat n) else none

/-- The level that a word stands for. -/
def level? : String → Option Level
  | "error" => some .error
  | "warning" => some .warning
  | _ => none

/-- The notes that a member holds; none if there is no such member. -/
def notes? : Option Json → Option (List String)
  | none => some []
  | some (.arr items) => items.mapM Json.asStr?
  | some _ => none

/-- The help that a member holds. -/
def help? : Option Json → Option (Option String)
  | none | some .null => some none
  | some (.str h) => some (some h)
  | some _ => none

/-- The diagnostic that an object stands for. -/
def ofJson? (j : Json) : Option Diagnostic := do
  let version ← version? (← (← j.member? "diag_version").asNum?)
  let level ← level? (← (← j.member? "level").asStr?)
  let code ← (← j.member? "code").asStr?
  let message ← (← j.member? "message").asStr?
  let file ← (← j.member? "file").asStr?
  let notes ← notes? (j.member? "notes")
  let help ← help? (j.member? "help")
  pure { version, level, code, message, file, notes, help }

/-- The diagnostic that a text stands for. -/
def ofJsonText? (s : String) : Option Diagnostic := (Json.parse? s).bind ofJson?

end ScriptRun.Diagnostic
