import ScriptRun.Outcome

/-!
# Diagnostics

Messages about a run for whoever looks after it. A diagnostic is an error or a warning, has a code
that stays the same over time, and names the file it is about.

Diagnostics are listed errors first, those of one level by file; the sort is stable, so those of
one level and file stay in the order they were reported in.
-/

namespace ScriptRun

/-- How grave a diagnostic is. -/
inductive Level where
  | error
  | warning
  deriving DecidableEq, Inhabited

/-- The word for a level. -/
def Level.word : Level → String
  | .error => "error"
  | .warning => "warning"

/-- A message about a run. -/
structure Diagnostic where
  /-- The version of the form that diagnostics are exchanged in. -/
  version : UInt32
  level : Level
  code : String
  message : String
  file : String
  notes : List String
  help : Option String
  deriving DecidableEq, Inhabited

namespace Diagnostic

/-- The version of the exchange form described here. -/
def currentVersion : UInt32 := 1

/-- The file of a diagnostic that is about the run as a whole. -/
def wholeRun : String := "<run>"

/-- A diagnostic about the run as a whole, with nothing added. -/
def make (level : Level) (code message : String) : Diagnostic :=
  { version := currentVersion, level, code, message, file := wholeRun, notes := [], help := none }

/-- The code of a diagnostic that has no code of its own. -/
def genericCode : Level → String
  | .error => "HR9999"
  | .warning => "HW9999"

/-- A diagnostic without a code of its own. -/
def generic (level : Level) (message : String) : Diagnostic :=
  make level (genericCode level) message

/-- Name the file a diagnostic is about. -/
def withFile (d : Diagnostic) (file : String) : Diagnostic := { d with file }

/-- Add a note after the notes there are. -/
def withNote (d : Diagnostic) (note : String) : Diagnostic := { d with notes := d.notes ++ [note] }

/-- Say what may help. -/
def withHelp (d : Diagnostic) (help : String) : Diagnostic := { d with help := some help }

/-- Whether a diagnostic is an error. -/
def isError (d : Diagnostic) : Bool := d.level == .error

/-- Codes of the warnings that runs give by themselves. -/
def constantRedefined : String := "HW0001"

@[inherit_doc constantRedefined] def scriptInclusionFailed : String := "HW0002"

@[inherit_doc constantRedefined] def teardownStepFailed : String := "HW0003"

/-- What a code stands for, if it has a fixed meaning. -/
def meaning? : String → Option String
  | "HR0001" => some "a function name was bound to a second, different function"
  | "HR0002" => some "a type name was bound to a second, different type"
  | "HR0003" => some "a referenced type is not declared and autoload did not declare it"
  | "HR0004" => some "a type name resolves to a different type than the one expected"
  | "HR0005" => some "two compiled scripts were registered under the same path"
  | "HR0006" => some "a function expected to be declared is not"
  | "HR0010" => some "a required script could not be resolved"
  | "HW0001" => some "a constant was declared again with a different value"
  | "HW0002" => some "an included script could not be resolved"
  | "HW0003" => some "a teardown step failed and was skipped"
  | _ => none

/-! ### Texts -/

/-- A diagnostic on one line. -/
def oneLine (d : Diagnostic) : String := d.level.word ++ "[" ++ d.code ++ "]: " ++ d.message

/-- A diagnostic for people, one fact a line. -/
def fullText (d : Diagnostic) : String :=
  d.oneLine ++ "\n  --> " ++ d.file ++ "\n"
    ++ String.join (d.notes.map fun n => "   = note: " ++ n ++ "\n")
    ++ (d.help.map fun h => "   = help: " ++ h ++ "\n").getD ""

/-! ### Order -/

/-- Errors before warnings, and diagnostics of one level by file name. -/
def ahead (a b : Diagnostic) : Bool :=
  match a.level, b.level with
  | .error, .warning => true
  | .warning, .error => false
  | _, _ => decide (a.file ≤ b.file)

/-- The order in which diagnostics are listed. -/
def sort (ds : List Diagnostic) : List Diagnostic := ds.mergeSort ahead

end Diagnostic

/-- The diagnostic that a failure is reported as. -/
def RunError.toDiagnostic (e : RunError) : Diagnostic := .make .error e.code e.message

end ScriptRun
