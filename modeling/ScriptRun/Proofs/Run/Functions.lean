import ScriptRun.Proofs.Run.Progress

/-!
# Functions of a run

The functions that a run sees are one catalog, in which those of the application come first. What a
call site remembers of a function, its place and its tag, stays right as long as the run lasts, and
no other tag is ever right there.
-/

namespace ScriptRun

variable {κ σ : Type} {s : Setting κ σ} {r r' : Run κ σ} {f : FunctionDecl κ} {i : Nat}

/-! ### Call sites -/

lemma Run.isFunctionAt_iff (h : r.functions.at? i = some f) (tag : Tag) :
    r.isFunctionAt i tag = true ↔ tag = f.tag := by
  rw [isFunctionAt, h]
  exact beq_iff_eq.trans eq_comm

lemma Moves.at? (h : Moves s r r') (hf : r.functions.at? i = some f) :
    r'.functions.at? i = some f := by
  obtain ⟨fs, cs, hfs, -⟩ := h.declares
  rw [hfs]
  exact LayeredFunctions.at?_declareAll hf fs

lemma Run.eq_of_declareFunction_error {e : RunError} (h : r.declareFunction f = (.error e, r')) :
    r' = r := by
  cases hr : r.isDisposed with
  | true =>
    rw [declareFunction_of_isDisposed hr] at h
    cases h
  | false =>
    cases hd : r.functions.declare f with
    | ok functions =>
      rw [declareFunction_of_ok hr hd] at h
      cases h
    | error e' =>
      rw [declareFunction_of_error hr hd] at h
      cases h
      rfl

/-! ### Places and tags -/

/-- In any history names and places determine each other. -/
lemma LayeredFunctions.at?_history_iff {builtin declared : List (FunctionDecl κ)}
    {r : LayeredFunctions κ}
    (hr : r = (ofApp (.insertAll .empty builtin)).declareAll declared) :
    r.at? i = some f ↔ f ∈ r.toList ∧ r.index? f.name = some i := by
  have hkeyed : r.flat.Keyed := by
    rw [hr, flat_history]
    exact FunctionCatalog.keyed_insertAll _
  rw [at?_eq_at?, index?_eq_position?]
  exact hkeyed.at?_eq_some_iff

/-- An application with any functions and a run that declares any more of them are together one
catalog that received all, refusals and repetitions included. In it names and places determine each
other, nothing moves, and of functions that were given one tag after another a function is confirmed
by its own tag and only where its name is bound to it. In a run a refused declaration changes
nothing, and a place and a tag that belong together once do so ever after, to the exclusion of any
other tag. -/
theorem functions_consistent {builtin : List (FunctionDecl κ)}
    (hs : s.app.functions = .insertAll .empty builtin) :
    (∀ declared,
      ((LayeredFunctions.ofApp s.app.functions).declareAll declared).ActsAs
        (.insertAll .empty (builtin ++ declared))) ∧
    (∀ declared r, r = (LayeredFunctions.ofApp s.app.functions).declareAll declared →
      (∀ i f, r.at? i = some f ↔ f ∈ r.toList ∧ r.index? f.name = some i) ∧
      (∀ i f more, r.at? i = some f → (r.declareAll more).at? i = some f) ∧
      ∀ created : List (FunctionDecl κ), Minted created →
        (∀ f ∈ created, ∀ g ∈ created, f.tag = g.tag → f = g) ∧
        ((∀ f ∈ builtin ++ declared, f ∈ created) → ∀ f ∈ created, ∀ tag,
          (r.confirms f tag = true ↔ tag = f.tag ∧ r.lookup? f.name = some f))) ∧
    (∀ r, Moment s r → ∃ declared,
      r.functions = (LayeredFunctions.ofApp s.app.functions).declareAll declared) ∧
    (∀ (r r' : Run κ σ) f e, r.declareFunction f = (.error e, r') → r' = r) ∧
    ∀ r r', Moment s r → Moves s r r' → ∀ f ∈ r.functions.toList, ∀ i,
      r.functions.index? f.name = some i →
        ∀ tag, r'.isFunctionAt i tag = true ↔ tag = f.tag := by
  refine ⟨?_, ?_, ?_, fun r r' f e h => Run.eq_of_declareFunction_error h, ?_⟩
  · intro declared
    rw [hs, ← LayeredFunctions.flat_history]
    exact LayeredFunctions.actsAs_flat _
  · rintro declared r hr
    rw [hs] at hr
    refine ⟨fun i f => LayeredFunctions.at?_history_iff hr,
      fun i f more h => LayeredFunctions.at?_declareAll h more, ?_⟩
    intro created hc
    refine ⟨fun f hf g hg => hc.eq_of_tag_eq hf hg, fun hall f hf tag => ?_⟩
    refine LayeredFunctions.confirms_iff (fun g hg htag => ?_) tag
    have hgflat : g ∈ r.flat.entries := hg
    rw [hr, LayeredFunctions.flat_history] at hgflat
    refine hc.eq_of_tag_eq ?_ hf htag
    rcases FunctionCatalog.mem_insertAll hgflat with hg | hg
    · cases hg
    · exact hall g hg
  · intro r hr
    obtain ⟨fs, cs, hfs, -⟩ := hr.declares
    exact ⟨fs, hfs⟩
  · intro r r' hr h f hf i hi tag
    obtain ⟨fs, cs, hfs, -⟩ := hr.declares
    rw [hs] at hfs
    have hat : r.functions.at? i = some f := (LayeredFunctions.at?_history_iff hfs).2 ⟨hf, hi⟩
    exact Run.isFunctionAt_iff (h.at? hat) tag

/-! ### A call site and a rival -/

/-- An application with one function. -/
def Setting.withFunction : Setting Unit Nat :=
  .plain { Application.empty with functions := .insertAll .empty [⟨⟨1⟩, "strlen", none, ()⟩] }

/-- A run that has declared a function of its own. -/
def Setting.withFunctionRun : Run Unit Nat :=
  ((withFunction.start none 0).declareFunction ⟨⟨2⟩, "Foo", none, ()⟩).2

/-- A function of the same name is refused, and the call site is not misled. -/
theorem functions_consistent_rival :
    ∃ e r', Setting.withFunctionRun.declareFunction ⟨⟨3⟩, "FOO", none, ()⟩ = (.error e, r') ∧
      r' = Setting.withFunctionRun ∧ ∀ tag, r'.isFunctionAt 1 tag = true ↔ tag = ⟨2⟩ := by
  have hbuiltin : Setting.withFunction.app.functions =
      .insertAll .empty [⟨⟨1⟩, "strlen", none, ()⟩] := rfl
  obtain ⟨-, -, -, herror, hsite⟩ := functions_consistent hbuiltin
  have hmove : Moves Setting.withFunction (Setting.withFunction.start none 0)
      Setting.withFunctionRun := .single (.change (.declareFunction _))
  have hr : Moment Setting.withFunction Setting.withFunctionRun := ⟨none, 0, hmove⟩
  have hrefused : Setting.withFunctionRun.declareFunction ⟨⟨3⟩, "FOO", none, ()⟩ =
      (.error (.redeclared .function "FOO"), Setting.withFunctionRun) := rfl
  refine ⟨_, _, hrefused, herror _ _ _ _ hrefused, ?_⟩
  exact hsite _ _ hr .refl ⟨⟨2⟩, "Foo", none, ()⟩ (.tail _ (.head _)) 1 rfl

end ScriptRun
