import ScriptRun.Proofs.Run.Autoload

/-!
# Types under their own names

A declared type is what its own name belongs to, and a use of the name finds it in every place,
whether or not autoload is wanted. The words that stand for a type by its relation to the place are
apart: they can be declared like other names, but a use of one finds what the word stands for.
-/

namespace ScriptRun

variable {κ σ : Type} {s : Setting κ σ} {call : Invoke κ σ} {r : Run κ σ} {name : String}
  {d : TypeDecl} {caller : Option TypeDecl} {autoload : Bool}

/-- One of the words that stand for a type by its relation to the place, in any case. -/
def IsPlaceWord (name : String) : Prop :=
  Spells name "self" ∨ Spells name "parent" ∨ Spells name "static"

/-- What a name is resolved to is this very type, and the run is left alone. -/
def Finds (d : TypeDecl) (r : Run κ σ)
    (answer : Option (Outcome (Option TypeDecl) × Run κ σ)) : Prop :=
  ∃ e, answer = some (.ok (some e), r) ∧ e.tag = d.tag

lemma finds_ok_iff {found : Option TypeDecl} :
    Finds d r (some (.ok found, r)) ↔ ∃ e, found = some e ∧ e.tag = d.tag := by
  simp [Finds]

lemma isDeclared_iff {types : LayeredTypes} :
    types.isDeclared d = true ↔ ∃ e, types.lookup? d.name = some e ∧ e.tag = d.tag := by
  rw [LayeredTypes.isDeclared]
  cases types.lookup? d.name <;> simp

/-- Making sure of a type succeeds without a call exactly if it is declared. -/
lemma ensureType_ok_iff :
    (∀ call : Invoke κ σ, Run.ensureType s call d r = some (.ok (), r)) ↔
      r.types.isDeclared d = true := by
  constructor
  · intro h
    by_cases hasks : ∃ hook, Asks s d.name d.autoload r hook
    · -- a hook that never comes back does not answer
      obtain ⟨hook, hasks⟩ := hasks
      have hnone := h fun _ _ _ _ _ => none
      rw [ensureType_of_asks hasks] at hnone
      cases hnone
    · have hok := h fun _ _ _ _ _ => none
      rw [ensureType_of_not_asks (not_exists.1 hasks)] at hok
      exact (ensures_foundAmong d r.types).declared.1 (Prod.mk.inj (Option.some.inj hok)).1
  · intro h call
    rw [Run.ensureType, if_pos h]

/-! ### Words and other names -/

lemma TypeMention.ofName_self (h : Spells name "self") : ofName name = .self := by
  rw [ofName, spells_iff.1 h]
  rfl

lemma TypeMention.ofName_parent (h : Spells name "parent") : ofName name = .parent := by
  rw [ofName, spells_iff.1 h]
  rfl

lemma TypeMention.ofName_static (h : Spells name "static") : ofName name = .static := by
  rw [ofName, spells_iff.1 h]
  rfl

lemma TypeMention.ofName_of_not_placeWord (h : ¬IsPlaceWord name) : ofName name = .named name := by
  rw [IsPlaceWord, not_or, not_or] at h
  exact ofName_named h.1 h.2.1 h.2.2

lemma lookupType_of_bound (h : r.types.lookup? name = some d) :
    Run.lookupType s call name autoload r = some (.ok (some d), r) := by
  rw [Run.lookupType, h]

/-- A declared type is made sure of without a call, and its own name resolves to it unless that is a
word for a place. Such a word resolves to the type only where it stands for the type. -/
theorem declared_found_by_name (s : Setting κ σ) (r : Run κ σ) (d : TypeDecl) :
    ((∀ call : Invoke κ σ, Run.ensureType s call d r = some (.ok (), r)) ↔
      r.types.isDeclared d = true) ∧
    (r.types.isDeclared d = true → ∀ (call : Invoke κ σ) caller autoload,
      (¬IsPlaceWord d.name → Finds d r (Run.resolveType s call d.name caller autoload r)) ∧
      (Spells d.name "self" → (Finds d r (Run.resolveType s call d.name caller autoload r) ↔
        ∃ e, caller = some e ∧ e.tag = d.tag)) ∧
      (Spells d.name "parent" → (Finds d r (Run.resolveType s call d.name caller autoload r) ↔
        ∃ e, caller.bind (·.base) = some e ∧ e.tag = d.tag)) ∧
      (Spells d.name "static" →
        ¬Finds d r (Run.resolveType s call d.name caller autoload r))) := by
  refine ⟨ensureType_ok_iff, fun hd call caller autoload => ⟨?_, ?_, ?_, ?_⟩⟩
  · intro hword
    obtain ⟨e, hlookup, htag⟩ := isDeclared_iff.1 hd
    rw [Run.resolveType, TypeMention.ofName_of_not_placeWord hword]
    exact ⟨e, lookupType_of_bound hlookup, htag⟩
  · intro hself
    rw [Run.resolveType, TypeMention.ofName_self hself]
    exact finds_ok_iff
  · intro hparent
    rw [Run.resolveType, TypeMention.ofName_parent hparent]
    exact finds_ok_iff
  · intro hstatic
    rw [Run.resolveType, TypeMention.ofName_static hstatic]
    rintro ⟨e, herror, -⟩
    cases herror

/-! ### A type with the name of a word -/

/-- A run that has declared a type and done nothing else. -/
def Run.withType (d : TypeDecl) : Run Unit Nat :=
  (((Setting.plain Application.empty).start none 0).declareType d).2

/-- Another spelling of the name, with a leading backslash, is no word for a place. -/
theorem declared_found_by_name_rooted :
    let s : Setting Unit Nat := Setting.plain Application.empty
    let d : TypeDecl := ⟨⟨1⟩, "\\Self", true, none⟩
    (Run.withType d).types.isDeclared d = true ∧ ¬IsPlaceWord d.name ∧
      Finds d (.withType d) (Run.resolveType s (s.invoke 1) "\\Self" none true (.withType d)) := by
  intro s d
  have hdeclared : (Run.withType d).types.isDeclared d = true := by decide +kernel
  have hword : ¬IsPlaceWord d.name := by
    rw [IsPlaceWord]
    decide +kernel
  obtain ⟨-, hfound⟩ := declared_found_by_name s (.withType d) d
  exact ⟨hdeclared, hword, (hfound hdeclared (s.invoke 1) none true).1 hword⟩

/-- Code can declare a type under the name `Self`, and the type is made sure of, but the name
resolves to nothing where no type is around. -/
theorem hidden_by_word :
    let s : Setting Unit Nat := Setting.plain Application.empty
    let d : TypeDecl := ⟨⟨1⟩, "Self", true, none⟩
    s.run 1 (.ask (.declareType d) fun _ => .done (.ok .null)) (s.start none 0) =
        some (.ok .null, .withType d) ∧
      (Run.withType d).types.isDeclared d = true ∧
      Run.ensureType s (s.invoke 1) d (.withType d) = some (.ok (), .withType d) ∧
      Run.resolveType s (s.invoke 1) "Self" none true (.withType d) =
        some (.ok none, .withType d) :=
  ⟨rfl, by decide +kernel, rfl, rfl⟩

end ScriptRun
