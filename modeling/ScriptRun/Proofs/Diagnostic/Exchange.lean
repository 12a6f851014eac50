import Mathlib.Logic.Function.Basic
import ScriptRun.Diagnostic.Exchange
import ScriptRun.Proofs.Json.RoundTrip

/-!
# Exchanged diagnostics arrive unchanged

A diagnostic is the one that its text stands for, whether the text is compact or indented, and
whichever members are left out of it. So no two diagnostics have the same text.
-/

namespace ScriptRun.Diagnostic

lemma version?_toNat (v : UInt32) : version? v.toNat = some v := by
  simp [version?, v.toNat_lt]

lemma level?_word (l : Level) : level? l.word = some l := by
  cases l <;> rfl

lemma notes?_map_str (notes : List String) :
    notes? (some (.arr (notes.map .str))) = some notes := by
  induction notes with
  | nil => rfl
  | cons n ns ih =>
    simp only [notes?, List.map_cons, List.mapM_cons] at ih ⊢
    simp [Json.asStr?, ih]

/-- The notes of a diagnostic are those of its object, which may lack them. -/
lemma notes?_toJson (d : Diagnostic) : notes? (d.toJson.member? "notes") = some d.notes := by
  cases hnotes : d.notes with
  | nil =>
    cases hhelp : d.help <;> simp [toJson, Json.member?, hnotes, hhelp, notes?]
  | cons n ns =>
    rw [← notes?_map_str (n :: ns)]
    simp [toJson, Json.member?, hnotes]

/-- The help of a diagnostic is that of its object, which may lack it. -/
lemma help?_toJson (d : Diagnostic) : help? (d.toJson.member? "help") = some d.help := by
  cases hnotes : d.notes <;> cases hhelp : d.help <;>
    simp [toJson, Json.member?, hnotes, hhelp, help?]

/-- The diagnostic that the object of a diagnostic stands for. -/
lemma ofJson?_toJson (d : Diagnostic) : ofJson? d.toJson = some d := by
  have hversion : d.toJson.member? "diag_version" = some (.num d.version.toNat) := rfl
  have hlevel : d.toJson.member? "level" = some (.str d.level.word) := rfl
  have hcode : d.toJson.member? "code" = some (.str d.code) := rfl
  have hmessage : d.toJson.member? "message" = some (.str d.message) := rfl
  have hfile : d.toJson.member? "file" = some (.str d.file) := rfl
  simp [ofJson?, hversion, hlevel, hcode, hmessage, hfile, Json.asNum?, Json.asStr?,
    version?_toNat, level?_word, notes?_toJson, help?_toJson]

@[simp] lemma ofJsonText?_toJsonLine (d : Diagnostic) : ofJsonText? d.toJsonLine = some d := by
  simp [ofJsonText?, toJsonLine, Json.parse?_toCompact, ofJson?_toJson]

@[simp] lemma ofJsonText?_toJsonText (d : Diagnostic) : ofJsonText? d.toJsonText = some d := by
  simp [ofJsonText?, toJsonText, Json.parse?_toIndented, ofJson?_toJson]

/-- What is read from a text of a diagnostic, be it compact or indented, is the diagnostic; so no
two diagnostics have the same compact or the same indented text. -/
theorem exchange_faithful :
    (∀ d : Diagnostic, ofJsonText? d.toJsonLine = some d ∧ ofJsonText? d.toJsonText = some d) ∧
      Function.Injective toJsonLine ∧ Function.Injective toJsonText := by
  refine ⟨?_, ?_, ?_⟩
  · intro d
    exact ⟨ofJsonText?_toJsonLine d, ofJsonText?_toJsonText d⟩
  · intro d d' h
    simpa using congrArg ofJsonText? h
  · intro d d' h
    simpa using congrArg ofJsonText? h

end ScriptRun.Diagnostic
