import ScriptRun.Proofs.Run.Execution

/-!
# Inside of calls

Moments are the states that moves lead to from the start of a run. That code meets no other states,
however deep it is called, is said by watching it: a watched execution is given up as soon as an
operation is asked for in a state that lacks some property. If moves keep the property, that never
happens (`invokeWatched_eq`).
-/

namespace ScriptRun

open Relation

variable {κ σ : Type} {s : Setting κ σ} {r r' r₁ : Run κ σ}

/-! ### Operations call code on later states -/

/-- Two ways of calling agree on whatever moves make of a run. -/
def Invoke.AgreeFrom (s : Setting κ σ) (r : Run κ σ) (call call' : Invoke κ σ) : Prop :=
  ∀ {r'}, Moves s r r' → ∀ code input context vars,
    call code input context vars r' = call' code input context vars r'

section Operations

variable {call call' : Invoke κ σ} {fuel : Nat}

lemma Invoke.AgreeFrom.later (h : Invoke.AgreeFrom s r call call') (hm : Moves s r r') :
    Invoke.AgreeFrom s r' call call' := fun h' => h (hm.trans h')

lemma agree_change (h : Invoke.AgreeFrom s r call call') (hc : Change s r r') (code : κ)
    (input : Input) (context : Option (ScriptContext κ)) (vars : Variables) :
    call code input context vars r' = call' code input context vars r' :=
  h (.single (.change hc)) code input context vars

lemma lookupType_congr (h : Invoke.AgreeFrom s r call call') (name : String) (autoload : Bool) :
    Run.lookupType s call name autoload r = Run.lookupType s call' name autoload r := by
  cases hd : r.isDisposed with
  | true => simp only [Run.lookupType, hd, Bool.or_true, if_true]
  | false =>
    have hcall := agree_change h (.began (.autoload name) rfl hd)
    simp only [Run.lookupType, hcall]

lemma resolveType_congr (h : Invoke.AgreeFrom s r call call') (name : String)
    (caller : Option TypeDecl) (autoload : Bool) :
    Run.resolveType s call name caller autoload r =
      Run.resolveType s call' name caller autoload r := by
  simp only [Run.resolveType, lookupType_congr h]

lemma includeScript_congr (h : Invoke.AgreeFrom s r call call') (q : Request) (vars : Variables) :
    Run.includeScript s call fuel q vars r = Run.includeScript s call' fuel q vars r := by
  cases hd : r.isDisposed with
  | true => simp only [Run.includeScript, hd, if_true]
  | false =>
    cases hres : Run.resolveScript s fuel q.path q.dir r with
    | none => simp only [Run.includeScript, hres]
    | some x =>
      obtain ⟨found, r₁⟩ := x
      obtain ⟨w, rfl⟩ := resolveScript_world hres
      cases found with
      | error p => simp only [Run.includeScript, hres]
      | ok found =>
        cases found with
        | none => simp only [Run.includeScript, hres]
        | some u =>
          have hcall := agree_change (h.later (.single (.change (.world w)))) (.script u hd)
          simp only [Run.includeScript, hres, Run.execute, hcall]

lemma includeGlobal_congr (h : Invoke.AgreeFrom s r call call') (path : String)
    (once require : Bool) :
    Run.includeGlobal s call fuel path once require r =
      Run.includeGlobal s call' fuel path once require r := by
  simp only [Run.includeGlobal, includeScript_congr h]

lemma offerError_congr (h : Invoke.AgreeFrom s r call call') (e : RunError) :
    Run.offerError call e r = Run.offerError call' e r := by
  have hcall := agree_change (h.later (.single (.change (.handler none)))) (.note (.handled e) rfl)
  simp only [Run.offerError, hcall]

lemma runEntry_congr (hc : call'.Stretches s) (h : Invoke.AgreeFrom s r call call')
    (path : String) :
    Run.runEntry s call fuel path r = Run.runEntry s call' fuel path r := by
  simp only [Run.runEntry, includeGlobal_congr h]
  cases hi : Run.includeGlobal s call' fuel path true true r with
  | none => rfl
  | some x =>
    obtain ⟨o, r₁⟩ := x
    cases o with
    | error e => simp only [offerError_congr (h.later (stretch_includeGlobal hc hi).moves)]
    | ok v => rfl
    | panic p => rfl

lemma drain_congr (hc : call'.Stretches s) {u : Run.Unwinding κ σ}
    (hl : u.run.lifecycle = .shuttingDown) (h : Invoke.AgreeFrom s u.run call call') :
    Run.drain s call fuel u = Run.drain s call' fuel u := by
  induction fuel generalizing u with
  | zero =>
    cases hcb : u.run.callbacks with
    | nil => rw [Run.drain_nil s call 0 hcb, Run.drain_nil s call' 0 hcb]
    | cons code rest => rw [Run.drain_zero_cons s call hcb, Run.drain_zero_cons s call' hcb]
  | succ fuel ih =>
    cases hcb : u.run.callbacks with
    | nil => rw [Run.drain_nil s call _ hcb, Run.drain_nil s call' _ hcb]
    | cons code rest =>
      have hmove : Moves s u.run (u.run.calling code rest) := .single (.callback code rest hl hcb)
      rw [Run.drain_succ_cons s call fuel hcb, Run.drain_succ_cons s call' fuel hcb,
        h hmove code .none none .global]
      cases hcall : call' code .none none .global (u.run.calling code rest) with
      | none => rfl
      | some x =>
        obtain ⟨o, vars, r₁⟩ := x
        obtain ⟨during, hm⟩ := meanwhile_callback hc hl hcall
        have hl₁ : r₁.lifecycle = .shuttingDown := hm.lifecycle.trans hl
        refine ih (u := ⟨r₁.settle s "shutdown callback" o.void, _⟩) hl₁ (h.later ?_)
        exact hmove.trans ((hc hcall).moves.tail (.concluded o.void hl₁))

lemma teardown_congr (hc : call'.Stretches s) (h : Invoke.AgreeFrom s r call call') :
    Run.teardown s call fuel r = Run.teardown s call' fuel r := by
  cases ht : r.isTorn with
  | true => rw [Run.teardown_of_isTorn s call fuel ht, Run.teardown_of_isTorn s call' fuel ht]
  | false =>
    have hdrain : Run.drain s call fuel ⟨r.tornDown, none⟩ =
        Run.drain s call' fuel ⟨r.tornDown, none⟩ :=
      drain_congr hc rfl (h.later (.single (.tearDown ht)))
    rw [Run.teardown_of_not_isTorn s call fuel ht, Run.teardown_of_not_isTorn s call' fuel ht,
      hdrain]

lemma dispose_congr (hc : call'.Stretches s) (h : Invoke.AgreeFrom s r call call') :
    Run.dispose s call fuel r = Run.dispose s call' fuel r :=
  congrArg (Option.map _) (teardown_congr hc h)

/-- An operation calls code only on what moves make of the run. -/
theorem perform_congr (hc : call'.Stretches s) (h : Invoke.AgreeFrom s r call call')
    (op : Op κ σ) (vars : Variables) :
    op.perform s call fuel vars r = op.perform s call' fuel vars r := by
  cases op with
  | call code input => exact congrArg (Option.map _) (h .refl code input none .global)
  | resolveType name caller autoload =>
    exact congrArg (Option.map _) (resolveType_congr h name caller autoload)
  | needType name caller autoload =>
    simp only [Op.perform, Run.needType, resolveType_congr h]
  | ensureType d => simp only [Op.perform, Run.ensureType, lookupType_congr h]
  | includeShared q => exact includeScript_congr h q vars
  | includeLending q bindings =>
    exact congrArg (Option.map _) (includeScript_congr h q (.lent bindings))
  | includeGlobal path once require =>
    exact congrArg (Option.map _) (includeGlobal_congr h path once require)
  | runEntry path => exact congrArg (Option.map _) (runEntry_congr hc h path)
  | offerError e => exact congrArg (Option.map _) (offerError_congr h e)
  | dispose => exact congrArg (Option.map _) (dispose_congr hc h)
  | _ => rfl

end Operations

/-! ### Watched execution -/

open Classical in
/-- Run guest code, but give up where it asks for an operation in a state without a property. -/
noncomputable def Guest.execWatched (P : Run κ σ → Prop) (s : Setting κ σ) (call : Invoke κ σ)
    (fuel : Nat) (context : Option (ScriptContext κ)) :
    Guest κ σ → Variables → Run κ σ → Option (Outcome Value × Variables × Run κ σ)
  | .done result, vars, r => some (result, vars, r)
  | .look next, vars, r =>
    execWatched P s call fuel context (next (view context vars r)) vars r
  | .ask op next, vars, r =>
    if P r then
      match op.perform s call fuel vars r with
      | none => none
      | some (answer, vars, r) => execWatched P s call fuel context (next answer) vars r
    else none

/-- Call a label, watching all code that is called in turn. -/
noncomputable def Setting.invokeWatched (s : Setting κ σ) (P : Run κ σ → Prop) (depth : Nat) :
    Invoke κ σ :=
  fun label input context vars r =>
    match depth with
    | 0 => none
    | depth + 1 =>
      (s.code label input).execWatched P s (s.invokeWatched P depth) depth context vars r

section Watched

variable {P : Run κ σ → Prop} {call call' : Invoke κ σ} {fuel : Nat}

lemma execWatched_eq (hP : ∀ {r r'}, P r → Moves s r r' → P r') (hc : call'.Stretches s)
    (h : ∀ {r}, P r → ∀ code input context vars,
      call code input context vars r = call' code input context vars r)
    (g : Guest κ σ) (context : Option (ScriptContext κ)) (vars : Variables) (hr : P r) :
    g.execWatched P s call fuel context vars r = g.exec s call' fuel context vars r := by
  -- on the code: the operations asked for so far were moves, so the next one finds the property
  induction g generalizing vars r with
  | done result => rfl
  | look next ih => exact ih _ vars hr
  | ask op next ih =>
    have hagree : Invoke.AgreeFrom s r call call' := fun hm => h (hP hr hm)
    rw [Guest.execWatched, Guest.exec, if_pos hr, perform_congr hc hagree]
    cases hop : op.perform s call' fuel vars r with
    | none => rfl
    | some x =>
      obtain ⟨answer, vars', r'⟩ := x
      exact ih answer vars' (hP hr (stretch_perform hc hop).moves)

/-- Code that is called in a state with a property that moves keep asks for no operation in any
other state, and neither does the code that it calls. -/
theorem invokeWatched_eq (hP : ∀ {r r'}, P r → Moves s r r' → P r') (depth : Nat) (hr : P r)
    (label : κ) (input : Input) (context : Option (ScriptContext κ)) (vars : Variables) :
    s.invokeWatched P depth label input context vars r =
      s.invoke depth label input context vars r := by
  induction depth generalizing r label input context vars with
  | zero => rfl
  | succ depth ih =>
    have hstretches : (s.invoke depth).Stretches s := stretches_invoke s depth
    exact execWatched_eq hP hstretches (fun hr => ih hr) (s.code label input) context vars hr

/-- All operations are asked for at moments of the run. -/
lemma Moment.watched (hr : Moment s r) (depth : Nat) (g : Guest κ σ)
    (context : Option (ScriptContext κ)) (vars : Variables) :
    g.execWatched (Moment s) s (s.invokeWatched (Moment s) depth) depth context vars r =
      g.exec s (s.invoke depth) depth context vars r := by
  have hP {r r' : Run κ σ} (hr : Moment s r) (h : Moves s r r') : Moment s r' := hr.later h
  have hstretches : (s.invoke depth).Stretches s := stretches_invoke s depth
  exact execWatched_eq hP hstretches (invokeWatched_eq hP depth) g context vars hr

end Watched

end ScriptRun
