import ScriptRun.Proofs.Run.Progress

/-!
# Constants of a run

The constants that a run sees are one catalog, in which of each name the first one stands. To
declare another value is no error: it leaves a warning and nothing else.
-/

namespace ScriptRun

variable {κ σ : Type} {s : Setting κ σ} {r : Run κ σ} {c : Constant}

/-! ### Declaring in a run -/

namespace Run

lemma declareConstant_fst_iff (s : Setting κ σ) (hr : r.isDisposed = false) (c : Constant) :
    (r.declareConstant s c).1 = true ↔ (r.constants.declare c).1 = .new := by
  rw [declareConstant_eq s hr]
  cases (r.constants.declare c).1 <;> simp

lemma constants_declareConstant (s : Setting κ σ) (hr : r.isDisposed = false) (c : Constant) :
    (r.declareConstant s c).2.constants = r.constants.after c := by
  rcases declareConstant_after s hr c with h | ⟨d, h⟩ <;> rw [h]
  rfl

/-- Another value is reported by one warning. -/
lemma declareConstant_of_conflict (s : Setting κ σ) (hr : r.isDisposed = false) {existing : Value}
    (h : (r.constants.declare c).1 = .conflict existing) :
    ∃ d : Diagnostic, d.level = .warning ∧ d.code = "HW0001" ∧
      (r.declareConstant s c).2.events = r.events ++ [.reported d] ∧
      (r.declareConstant s c).2.world = s.sink d r.world := by
  refine ⟨constantRedefined c.name existing, rfl, rfl, ?_, ?_⟩
  · rw [declareConstant_eq s hr, h]
    exact events_record _ _
  · rw [declareConstant_eq s hr, h]
    rfl

/-- Anything else is reported to nobody. -/
lemma declareConstant_of_not_conflict (s : Setting κ σ) (hr : r.isDisposed = false)
    (h : ∀ existing, (r.constants.declare c).1 ≠ .conflict existing) :
    (r.declareConstant s c).2.events = r.events ∧ (r.declareConstant s c).2.world = r.world := by
  rw [declareConstant_eq s hr]
  cases hc : (r.constants.declare c).1 with
  | new | unchanged => exact ⟨rfl, rfl⟩
  | conflict existing => exact absurd hc (h existing)

end Run

/-- An application with any constants and a run that declares any more of them, each of which may
respect case or ignore it, are together one catalog that received all. In it a name that stands for
a constant stands for it ever after; a constant is new exactly if its name stood for none, and then
its name stands for it and it stands behind all others; and a constant that is not new changes
nothing. A run declares its constants so until it is disposed, and reports by exactly one warning
that a name has another value, and nothing otherwise. -/
theorem constants_consistent {builtin : List Constant}
    (hs : s.app.constants = .insertAll .empty builtin) :
    (∀ declared,
      ((LayeredConstants.ofApp s.app.constants).declareAll declared).ActsAs
        (.insertAll .empty (builtin ++ declared))) ∧
    (∀ declared r, r = (LayeredConstants.ofApp s.app.constants).declareAll declared →
      (∀ name c, r.lookup? name = some c → ∀ more, (r.declareAll more).lookup? name = some c) ∧
      (∀ c, (r.declare c).1 = .new ↔ r.lookup? c.name = none) ∧
      (∀ c, (r.declare c).1 = .new →
        (r.declare c).2.lookup? c.name = some c ∧ (r.declare c).2.toList = r.toList ++ [c]) ∧
      ∀ c, (r.declare c).1 ≠ .new → (r.declare c).2 = r) ∧
    (∀ r, Moment s r → ∃ declared,
      r.constants = (LayeredConstants.ofApp s.app.constants).declareAll declared) ∧
    (∀ (r : Run κ σ) c, r.isDisposed = true → r.declareConstant s c = (false, r)) ∧
    ∀ (r : Run κ σ) c, r.isDisposed = false →
      (r.declareConstant s c).2.constants = (r.constants.declare c).2 ∧
      ((r.declareConstant s c).1 = true ↔ (r.constants.declare c).1 = .new) ∧
      (∀ existing, (r.constants.declare c).1 = .conflict existing →
        ∃ d : Diagnostic, d.level = .warning ∧ d.code = "HW0001" ∧
          (r.declareConstant s c).2.events = r.events ++ [.reported d] ∧
          (r.declareConstant s c).2.world = s.sink d r.world) ∧
      ((∀ existing, (r.constants.declare c).1 ≠ .conflict existing) →
        (r.declareConstant s c).2.events = r.events ∧
          (r.declareConstant s c).2.world = r.world) := by
  have hseparate (declared : List Constant) :
      ((LayeredConstants.ofApp s.app.constants).declareAll declared).Separate :=
    (LayeredConstants.separate_ofApp _).declareAll declared
  refine ⟨?_, ?_, ?_, fun r c hr => Run.declareConstant_of_isDisposed s hr c, ?_⟩
  · intro declared
    have h := (hseparate declared).actsAs
    rwa [hs, LayeredConstants.flat_history, ← hs] at h
  · rintro declared r rfl
    have hr := hseparate declared
    refine ⟨fun name c h more => LayeredConstants.lookup?_declareAll hr h more,
      fun c => LayeredConstants.declare_new_iff hr, fun c hnew => ?_,
      fun c hold => LayeredConstants.after_of_not_new hold⟩
    exact ⟨LayeredConstants.lookup?_after_of_new hr hnew,
      LayeredConstants.toList_after_of_new hr hnew⟩
  · intro r hr
    obtain ⟨fs, cs, -, hcs⟩ := hr.declares
    exact ⟨cs, hcs⟩
  · intro r c hr
    exact ⟨Run.constants_declareConstant s hr c, Run.declareConstant_fst_iff s hr c,
      fun existing h => Run.declareConstant_of_conflict s hr h,
      Run.declareConstant_of_not_conflict s hr⟩

/-! ### One name in three cases -/

/-- An application with a constant that respects case. -/
def Setting.withConstant : Setting Unit Nat :=
  .plain { Application.empty with constants := .insertAll .empty [⟨"Limit", .int 10, false⟩] }

/-- A run that has declared a constant of the same name, but ignoring case. -/
def Setting.withConstantRun : Run Unit Nat :=
  ((withConstant.start none 0).declareConstant withConstant ⟨"LIMIT", .int 20, true⟩).2

/-- In a third case the name stands for the constant of the run, and another value is warned
about. -/
theorem constants_consistent_limit :
    (Setting.withConstantRun.constants.lookup? "Limit").map (·.value) = some (.int 10) ∧
      ∃ d : Diagnostic, d.level = .warning ∧ d.code = "HW0001" ∧
        (Setting.withConstantRun.declareConstant Setting.withConstant
          ⟨"limit", .int 30, false⟩).2.events =
            Setting.withConstantRun.events ++ [.reported d] := by
  have hbuiltin : Setting.withConstant.app.constants =
      .insertAll .empty [⟨"Limit", .int 10, false⟩] := rfl
  obtain ⟨-, -, -, -, hrun⟩ := constants_consistent hbuiltin
  obtain ⟨-, -, hconflict, -⟩ := hrun Setting.withConstantRun ⟨"limit", .int 30, false⟩ rfl
  obtain ⟨d, hlevel, hcode, hevents, -⟩ := hconflict (.int 20) rfl
  exact ⟨rfl, d, hlevel, hcode, hevents⟩

end ScriptRun
