import ScriptRun.Proofs.Value.Equality
import ScriptRun.Proofs.Run.Progress

/-!
# Declaring a constant again

Once a constant is new, its name stands for it to the end. To declare it again therefore compares
its value with itself, and nothing else that was declared in between has a say. The comparison holds
unless there is a NaN in the value: then the constant is reported as if it had another value.
-/

namespace ScriptRun

variable {κ σ : Type} {s : Setting κ σ} {r r' : Run κ σ} {c : Constant}

/-! ### Catalogs and layers -/

/-- What it is to declare a constant again: nothing changes, and the answer is that nothing does,
unless there is a NaN in the value. With one, the constant is in conflict with itself. -/
structure Constant.Again {α : Type} (c : Constant) (before : α) (result : Declared × α) :
    Prop where
  left : result.2 = before
  unchanged_iff : result.1 = .unchanged ↔ ¬ c.value.HasNaN
  conflict : c.value.HasNaN → result.1 = .conflict c.value

lemma Constant.again_of_eq {α : Type} {before : α} {result : Declared × α}
    (h : result = (if c.value.same c.value then .unchanged else .conflict c.value, before)) :
    c.Again before result := by
  rw [h]
  by_cases hnan : c.value.HasNaN
  · rw [if_neg (mt (Value.same_self_iff _).1 (not_not_intro hnan))]
    exact ⟨rfl, iff_of_false nofun (not_not_intro hnan), fun _ => rfl⟩
  · rw [if_pos ((Value.same_self_iff _).2 hnan)]
    exact ⟨rfl, iff_of_true rfl hnan, fun h => absurd h hnan⟩

namespace ConstantCatalog

variable {t : ConstantCatalog}

/-- The name of a new constant stands for it. -/
lemma get?_after_of_new (h : (t.insert c).1 = .new) : (t.after c).get? c.name = some c := by
  rw [insert_new_iff] at h
  rw [get?_after_of_none h, h, get?_singleton]
  rfl

lemma again_of_get? (h : t.get? c.name = some c) : c.Again t (t.insert c) :=
  Constant.again_of_eq (insert_of_some h)

end ConstantCatalog

namespace LayeredConstants

variable {l : LayeredConstants}

lemma again_of_lookup? (h : l.lookup? c.name = some c) : c.Again l (l.declare c) := by
  refine Constant.again_of_eq ?_
  rw [lookup?, Option.or_eq_some_iff] at h
  rcases h with happ | ⟨happ, hown⟩
  · rw [declare_of_app happ]
  · rw [declare_of_own happ, ConstantCatalog.insert_of_some hown]

end LayeredConstants

/-! ### Runs -/

lemma Moment.separate (hr : Moment s r) : r.constants.Separate := by
  obtain ⟨_, cs, -, hcs⟩ := hr.declares
  rw [hcs]
  exact (LayeredConstants.separate_ofApp _).declareAll cs

/-- What a name stands for at some moment, it stands for at every later one. -/
lemma Moves.lookup?_constants (h : Moves s r r') (hr : r.constants.Separate)
    {name : String} (hc : r.constants.lookup? name = some c) :
    r'.constants.lookup? name = some c := by
  obtain ⟨_, cs, -, hcs⟩ := h.declares
  rw [hcs]
  exact LayeredConstants.lookup?_declareAll hr hc cs

/-- A constant that a run has declared as new is what its name stands for. -/
lemma Run.lookup?_declareConstant (hr : r.constants.Separate)
    (h : (r.declareConstant s c).1 = true) :
    (r.declareConstant s c).2.constants.lookup? c.name = some c := by
  cases hd : r.isDisposed with
  | true =>
    rw [declareConstant_of_isDisposed s hd] at h
    cases h
  | false =>
    have hafter : (r.declareConstant s c).2.constants = r.constants.after c := by
      rcases declareConstant_after s hd c with h | ⟨d, h⟩ <;> rw [h]
      rfl
    have hnew : (r.constants.declare c).1 = .new := by
      rw [declareConstant_eq s hd] at h
      cases hresult : (r.constants.declare c).1 with
      | new => rfl
      | unchanged | conflict =>
        rw [hresult] at h
        cases h
    rw [hafter]
    exact LayeredConstants.lookup?_after_of_new hr hnew

/-- A run in which a constant is declared again stays as it is, but for a warning that it has another
value if there is a NaN in it. -/
lemma Run.declareConstant_again (hd : r.isDisposed = false)
    (h : r.constants.lookup? c.name = some c) :
    r.declareConstant s c =
      (false, if c.value.HasNaN then r.report s (constantRedefined c.name c.value) else r) := by
  have hagain := LayeredConstants.again_of_lookup? h
  have hafter : r.constants.after c = r.constants := hagain.left
  rw [declareConstant_eq s hd, hafter]
  by_cases hnan : c.value.HasNaN
  · rw [if_pos hnan, hagain.conflict hnan]
  · rw [if_neg hnan, hagain.unchanged_iff.2 hnan]

/-- A constant that was new is declared again after any others: into the catalog of an application,
in a run over that catalog, in the run that it was new in, and by whatever code at a later moment of
a run. It changes nothing, and it is silent exactly if there is no NaN in the value. -/
theorem declared_again (c : Constant) :
    (∀ (t : ConstantCatalog) others, (t.insert c).1 = .new →
      let t' := (t.after c).insertAll others
      c.Again t' (t'.insert c) ∧
      ∀ others, let l := (LayeredConstants.ofApp t').declareAll others
        c.Again l (l.declare c)) ∧
    (∀ t others (l : LayeredConstants), l = (LayeredConstants.ofApp t).declareAll others →
      (l.declare c).1 = .new →
      ∀ others, let l' := (l.after c).declareAll others
        c.Again l' (l'.declare c)) ∧
    ∀ (s : Setting κ σ) r, Moment s r → (r.declareConstant s c).1 = true →
      ∀ r', Moves s (r.declareConstant s c).2 r' →
        r'.declareConstant s c =
          (false, if r'.isDisposed = false ∧ c.value.HasNaN
            then r'.report s (Run.constantRedefined c.name c.value) else r') := by
  refine ⟨?_, ?_, ?_⟩
  · intro t others hnew t'
    have ht' : t'.get? c.name = some c :=
      ConstantCatalog.get?_insertAll (ConstantCatalog.get?_after_of_new hnew) others
    refine ⟨ConstantCatalog.again_of_get? ht', fun others => ?_⟩
    have hl : (LayeredConstants.ofApp t').lookup? c.name = some c := by
      rw [LayeredConstants.lookup?_eq_get? (LayeredConstants.separate_ofApp t'),
        LayeredConstants.flat_ofApp, ht']
    exact LayeredConstants.again_of_lookup?
      (LayeredConstants.lookup?_declareAll (LayeredConstants.separate_ofApp t') hl others)
  · rintro t before l rfl hnew others
    have hseparate := (LayeredConstants.separate_ofApp t).declareAll before
    exact LayeredConstants.again_of_lookup?
      (LayeredConstants.lookup?_declareAll (hseparate.after c)
        (LayeredConstants.lookup?_after_of_new hseparate hnew) others)
  · intro s r hr hnew r' hlater
    -- the run may have ended in between, and then nothing is declared
    cases hd : r'.isDisposed with
    | true =>
      rw [Run.declareConstant_of_isDisposed s hd, if_neg (by simp)]
    | false =>
      have hseparate := (hr.later (.single (.change (.declareConstant c)))).separate
      have hc := Moves.lookup?_constants hlater hseparate
        (Run.lookup?_declareConstant hr.separate hnew)
      rw [Run.declareConstant_again hd hc]
      simp only [true_and]

/-! ### Two constants of numbers -/

/-- A constant that ignores case, with numbers at two depths. -/
def Constant.ratios : Constant where
  name := "Ratios"
  value := .array [.float ⟨0x3ff8000000000000⟩, .array [.float ⟨0x8000000000000000⟩, .null]]
  ignoreCase := true

/-- Another constant of the name is refused in between, and the first one is silent again. -/
theorem declared_again_ratios :
    let s := Setting.plain (κ := Unit) .empty
    let first := (s.start none 0).declareConstant s .ratios
    let other := first.2.declareConstant s ⟨"RATIOS", .int 2, false⟩
    first.1 = true ∧ other.2.world = 1 ∧ other.2.declareConstant s .ratios = (false, other.2) := by
  intro s first other
  have hother : Moves s first.2 other.2 := .single (.change (.declareConstant _))
  refine ⟨rfl, rfl, ?_⟩
  obtain ⟨-, -, hrun⟩ := declared_again (κ := Unit) (σ := Nat) .ratios
  rw [hrun s _ ⟨none, 0, .refl⟩ rfl other.2 hother, if_neg (by decide)]

/-- A constant that is a NaN is in conflict with itself, of which a run reports a warning. -/
theorem nan_in_conflict :
    let c : Constant := ⟨"V", .float ⟨0x7ff8000000000000⟩, false⟩
    let l := LayeredConstants.ofApp .empty
    let s := Setting.plain (κ := Unit) .empty
    let first := (s.start none 0).declareConstant s c
    ((l.declare c).1 = .new ∧ ((l.after c).declare c).1 ≠ .unchanged) ∧
      first.1 = true ∧ (first.2.declareConstant s c).2.world = first.2.world + 1 :=
  ⟨⟨rfl, nofun⟩, rfl, rfl⟩

end ScriptRun
