import ScriptRun.Proofs.Run.Progress
import ScriptRun.Proofs.Run.Balance

/-!
# The lifecycle of a run

A run only goes forward: it is created, a script begins, a teardown begins, and it is disposed. What
is disposed stays as it is, also for code that was under way when the run was disposed of: nothing
is declared or included any more, nothing is kept for the end, and nothing is set going.
-/

namespace ScriptRun

open Relation

variable {κ σ : Type} {s : Setting κ σ} {r r' : Run κ σ}

/-! ### Forward -/

/-- The place of a state in the order in which a run goes through them. -/
def Lifecycle.stage : Lifecycle → Nat
  | .created => 0
  | .running => 1
  | .shuttingDown => 2
  | .disposed => 3

lemma Run.isDisposed_iff : r.isDisposed = true ↔ r.lifecycle = .disposed := beq_iff_eq

lemma Move.stage_le (h : Move s r r') : r.lifecycle.stage ≤ r'.lifecycle.stage := by
  cases h with
  | change h =>
    rcases h.lifecycle with h | ⟨h, h'⟩
    · exact Nat.le_of_eq (congrArg Lifecycle.stage h.symm)
    · rw [h, h']
      decide
  | tearDown hr =>
    rcases Run.isTorn_eq_false_iff.1 hr with h | h
    · rw [h]
      exact Nat.zero_le _
    · rw [h]
      exact Nat.le_succ 1
  | callback | concluded => exact Nat.le_refl _
  | close hr =>
    rw [hr]
    exact Nat.le_succ 2

lemma Moves.stage_le (h : Moves s r r') : r.lifecycle.stage ≤ r'.lifecycle.stage := by
  induction h with
  | refl => exact Nat.le_refl _
  | tail _ h ih => exact Nat.le_trans ih h.stage_le

/-- Before a teardown and after it there are changes and no other moves. -/
lemma Move.change_of_not_isTorn (h : Move s r r') (ht : r'.isTorn = false) : Change s r r' := by
  have absurd_of_torn {q : Run κ σ} (hq : q.isTorn = false) (hl : q.lifecycle = .shuttingDown) :
      False := by
    rw [Run.isTorn_eq_true_iff.2 (.inl hl)] at hq
    cases hq
  cases h with
  | change h => exact h
  | tearDown => cases ht
  | callback code rest hr => exact (absurd_of_torn ht hr).elim
  | concluded o hr => exact (absurd_of_torn ht hr).elim
  | close => cases ht

lemma Move.change_of_isDisposed (h : Move s r r') (hd : r.isDisposed = true) : Change s r r' := by
  rw [Run.isDisposed_iff] at hd
  cases h with
  | change h => exact h
  | tearDown hr =>
    rw [Run.isTorn, hd] at hr
    cases hr
  | callback _ _ hr | concluded _ hr | close hr =>
    rw [hd] at hr
    cases hr

/-! ### The first script -/

/-- A script has begun. -/
def Run.HasBegun (r : Run κ σ) : Prop := ∃ i, .began (.script i) ∈ r.events

lemma Run.hasBegun_iff : r.HasBegun ↔ ∃ i, .script i ∈ stepsIn r.events := by
  simp only [HasBegun, stepsIn, List.mem_filterMap]
  constructor
  · rintro ⟨i, h⟩
    exact ⟨i, _, h, rfl⟩
  · rintro ⟨i, e, he, hi⟩
    cases e with
    | began step =>
      cases hi
      exact ⟨i, he⟩
    | _ => cases hi

lemma Run.beginRunning_of_not_isTorn (ht : r.isTorn = false) :
    r.beginRunning.lifecycle = .running := by
  rcases isTorn_eq_false_iff.1 ht with h | h
  · rw [beginRunning, h]
  · rw [beginRunning, h]
    exact h

/-- Until a teardown begins, a run is running exactly if a script has begun. -/
lemma Moment.running_iff (hr : Moment s r) :
    r.isTorn = false → (r.lifecycle = .running ↔ r.HasBegun) := by
  obtain ⟨w, h⟩ := hr.moves_blank
  clear hr
  -- on the moves: while no teardown begins, only a script touches either side
  induction h with
  | refl => exact fun _ => iff_of_false nofun fun ⟨_, hi⟩ => absurd hi List.not_mem_nil
  | @tail r r' _ h ih =>
    intro ht'
    have hc := h.change_of_not_isTorn ht'
    have ht : r.isTorn = false := hc.isTorn.symm.trans ht'
    have ih := ih ht
    cases hc.progress with
    | idle _ hl hs | declared _ _ hl hs =>
      rw [hl, ih, Run.hasBegun_iff, Run.hasBegun_iff, hs]
    | aside step hstep _ _ hl he =>
      rw [hl, ih, Run.HasBegun, Run.HasBegun, he]
      refine exists_congr fun i => ?_
      rw [List.mem_append, List.mem_singleton]
      refine (or_iff_left fun h => ?_).symm
      cases h
      cases hstep
    | script i _ _ hl he =>
      rw [hl]
      refine iff_of_true (Run.beginRunning_of_not_isTorn ht) ⟨i, ?_⟩
      rw [he]
      exact List.mem_append_right _ (List.mem_singleton.2 rfl)

/-- A run begins to be running exactly when the first script begins, and no teardown has. -/
lemma Moment.begins_iff (hr : Moment s r) (h : Move s r r') :
    r.lifecycle = .created ∧ r'.lifecycle = .running ↔
      r.isTorn = false ∧ ¬r.HasBegun ∧ ∃ i, r'.events = r.events ++ [.began (.script i)] := by
  constructor
  · rintro ⟨hl, hl'⟩
    have ht : r.isTorn = false := Run.isTorn_eq_false_iff.2 (.inl hl)
    have hc := h.change_of_not_isTorn (Run.isTorn_eq_false_iff.2 (.inr hl'))
    refine ⟨ht, fun hb => ?_, ?_⟩
    · rw [← hr.running_iff ht, hl] at hb
      cases hb
    · cases hc.progress with
      | idle _ heq | declared _ _ heq | aside _ _ _ _ heq =>
        rw [heq, hl] at hl'
        cases hl'
      | script i _ _ _ he => exact ⟨i, he⟩
  · rintro ⟨ht, hb, i, he⟩
    have hl : r.lifecycle = .created := by
      refine (Run.isTorn_eq_false_iff.1 ht).resolve_right fun hl => hb ?_
      exact (hr.running_iff ht).1 hl
    refine ⟨hl, ?_⟩
    have hgrows : stepsIn r'.events ≠ stepsIn r.events := by
      rw [he, stepsIn, List.filterMap_append]
      exact fun h => absurd (List.append_right_eq_self.1 h) (List.cons_ne_nil _ _)
    cases h with
    | change h =>
      cases h.progress with
      | idle _ _ hs | declared _ _ _ hs => exact absurd hs hgrows
      | aside step hstep _ _ _ he' =>
        -- what is set going is a script and nothing else
        cases List.append_cancel_left (he'.symm.trans he)
        cases hstep
      | script _ _ _ hl' =>
        rw [hl']
        exact Run.beginRunning_of_not_isTorn ht
    | tearDown => exact absurd rfl hgrows
    | callback _ _ hr | concluded _ hr | close hr =>
      rw [hl] at hr
      cases hr

/-! ### The end -/

/-- A run is disposed and holds nothing, and has declared, included and set going what another one
has. -/
structure Frozen (r r' : Run κ σ) : Prop where
  lifecycle : r'.lifecycle = .disposed
  functions : r'.functions = r.functions
  types : r'.types = r.types
  constants : r'.constants = r.constants
  included : r'.included = r.included
  callbacks : r'.callbacks = []
  resources : r'.resources = []
  temporaries : r'.temporaries = []
  steps : stepsIn r'.events = stepsIn r.events

/-- A change of a run that is disposed does not get it any further. -/
lemma Progress.of_isDisposed (h : Progress r r') (hd : r.isDisposed = true) :
    r'.registers = r.registers ∧ r'.lifecycle = r.lifecycle ∧
      stepsIn r'.events = stepsIn r.events := by
  cases h with
  | idle hreg hl hs => exact ⟨hreg, hl, hs⟩
  | declared hr | aside _ _ hr | script _ hr =>
    rw [hd] at hr
    cases hr

lemma Moves.of_isDisposed (h : Moves s r r') (hd : r.isDisposed = true) :
    r'.registers = r.registers ∧ r'.lifecycle = r.lifecycle ∧
      stepsIn r'.events = stepsIn r.events := by
  induction h with
  | refl => exact ⟨rfl, rfl, rfl⟩
  | @tail r₁ r' _ h ih =>
    obtain ⟨hreg, hl, hs⟩ := ih
    have hd₁ : r₁.isDisposed = true := Run.isDisposed_iff.2 (hl.trans (Run.isDisposed_iff.1 hd))
    obtain ⟨hreg', hl', hs'⟩ := (h.change_of_isDisposed hd₁).progress.of_isDisposed hd₁
    exact ⟨hreg'.trans hreg, hl'.trans hl, hs'.trans hs⟩

lemma Moment.frozen (hr : Moment s r) (hd : r.isDisposed = true) (h : Moves s r r') :
    Frozen r r' := by
  obtain ⟨hreg, hl, hs⟩ := h.of_isDisposed hd
  have hl' : r'.lifecycle = .disposed := hl.trans (Run.isDisposed_iff.1 hd)
  have hd' : r'.isDisposed = true := Run.isDisposed_iff.2 hl'
  have hr' : Moment s r' := hr.later h
  exact
    { lifecycle := hl'
      functions := congrArg (·.1) hreg
      types := congrArg (·.2.1) hreg
      constants := congrArg (·.2.2.1) hreg
      included := congrArg (·.2.2.2) hreg
      callbacks := hr'.callbacks.emptied hd'
      resources := hr'.resources.emptied hd'
      temporaries := hr'.files.emptied hd'
      steps := hs }

/-- A run that comes to be disposed has been closed when its callbacks had run. -/
lemma Moves.exists_closed (h : Moves s r r') (hd : r.isDisposed = false)
    (hd' : r'.isDisposed = true) :
    ∃ q, Moves s r q ∧ q.lifecycle = .shuttingDown ∧ q.callbacks = [] ∧
      Moves s (q.closed s) r' := by
  -- on the moves, to find the one by which the run comes to be disposed: it is a closing
  induction h with
  | refl =>
    rw [hd] at hd'
    cases hd'
  | @tail r₁ r' hmoves h ih =>
    cases hd₁ : r₁.isDisposed with
    | true =>
      obtain ⟨q, hq, hl, hc, hlater⟩ := ih hd₁
      exact ⟨q, hq, hl, hc, hlater.tail h⟩
    | false =>
      have hlife : r'.lifecycle ≠ r₁.lifecycle := by
        intro hl
        rw [Run.isDisposed, hl] at hd'
        rw [Run.isDisposed, hd'] at hd₁
        cases hd₁
      cases h with
      | change h =>
        rcases h.lifecycle with hl | ⟨-, hl⟩
        · exact absurd hl hlife
        · rw [Run.isDisposed, hl] at hd'
          cases hd'
      | tearDown => cases hd'
      | callback | concluded => exact absurd rfl hlife
      | close hl hc => exact ⟨r₁, hmoves, hl, hc, .refl⟩

/-! ### Operations on a disposed run -/

/-- Whether an operation calls code, or uses the host, because it was asked to do just that. -/
def Op.reachesOut : Op κ σ → Bool
  | .call _ _ | .offerError _ | .write _ | .flush | .closeSession => true
  | _ => false

/-- A setting with the host, the streams, the autoload hook and the code of another one. -/
def Setting.within (s surroundings : Setting κ σ) : Setting κ σ :=
  { s with
    host := surroundings.host
    streams := surroundings.streams
    autoload := surroundings.autoload
    code := surroundings.code }

section Operations

variable {call : Invoke κ σ} {fuel : Nat}

lemma lookupType_of_isDisposed (hd : r.isDisposed = true) (name : String) (autoload : Bool) :
    Run.lookupType s call name autoload r = some (.ok (r.types.lookup? name), r) := by
  rw [Run.lookupType, hd, Bool.or_true]
  cases h : r.types.lookup? name <;> rfl

lemma resolveType_of_isDisposed (hd : r.isDisposed = true) (name : String)
    (caller : Option TypeDecl) (autoload : Bool) :
    Run.resolveType s call name caller autoload r =
      some (match TypeMention.ofName name with
        | .self => .ok caller
        | .parent => .ok (caller.bind (·.base))
        | .static => .error .lateStaticBinding
        | .named name => .ok (r.types.lookup? name), r) := by
  rw [Run.resolveType]
  cases TypeMention.ofName name with
  | named name => exact lookupType_of_isDisposed hd name autoload
  | _ => rfl

lemma includeScript_of_isDisposed (hd : r.isDisposed = true) (q : Request) (vars : Variables) :
    Run.includeScript s call fuel q vars r = some (.ok .null, vars, r) := by
  rw [Run.includeScript, if_pos hd]

lemma includeGlobal_of_isDisposed (hd : r.isDisposed = true) (path : String)
    (once require : Bool) :
    Run.includeGlobal s call fuel path once require r = some (.ok .null, r) := by
  rw [Run.includeGlobal, includeScript_of_isDisposed hd]
  rfl

lemma runEntry_of_isDisposed (hd : r.isDisposed = true) (path : String) :
    Run.runEntry s call fuel path r = some (.ok .null, r) := by
  rw [Run.runEntry, includeGlobal_of_isDisposed hd]

lemma dispose_of_isDisposed (hd : r.isDisposed = true) :
    Run.dispose s call fuel r = some (.ok (), r) := by
  have ht : r.isTorn = true := Run.isTorn_eq_true_iff.2 (.inr (Run.isDisposed_iff.1 hd))
  rw [Run.dispose, Run.teardown_of_isTorn s call fuel ht]
  rfl

/-- Searching for a script uses neither the host nor the streams, and calls no hook. -/
lemma resolveScript_within (surroundings : Setting κ σ) (fuel : Nat) :
    Run.resolveScript (s.within surroundings) fuel = Run.resolveScript s fuel := by
  induction fuel with
  | zero =>
    funext path dir r
    rw [Run.resolveScript, Run.resolveScript]
    rfl
  | succ fuel ih =>
    funext path dir r
    simp only [Run.resolveScript, ih]
    rfl

/-- On a run that is disposed, operations come to the same whatever there is to be called, but for
those that ask for just that. -/
lemma perform_of_isDisposed (hd : r.isDisposed = true) {op : Op κ σ} (hop : op.reachesOut = false)
    (surroundings : Setting κ σ) (call' : Invoke κ σ) (vars : Variables) :
    op.perform (s.within surroundings) call' fuel vars r = op.perform s call fuel vars r := by
  cases op with
  | call | offerError | write | flush | closeSession => cases hop
  | resolveType name caller autoload => simp only [Op.perform, resolveType_of_isDisposed hd]
  | needType name caller autoload =>
    simp only [Op.perform, Run.needType, resolveType_of_isDisposed hd]
  | ensureType d => simp only [Op.perform, Run.ensureType, lookupType_of_isDisposed hd]
  | resolveScript path dir => simp only [Op.perform, resolveScript_within]
  | includeShared q => simp only [Op.perform, includeScript_of_isDisposed hd]
  | includeLending q bindings => simp only [Op.perform, includeScript_of_isDisposed hd]
  | includeGlobal path once require => simp only [Op.perform, includeGlobal_of_isDisposed hd]
  | runEntry path => simp only [Op.perform, runEntry_of_isDisposed hd]
  | dispose => simp only [Op.perform, dispose_of_isDisposed hd]
  | _ => rfl

end Operations

/-! ### Disposed is final -/

/-- All code, however deep it is called, makes moves and asks for its operations at moments, and
giving a run up makes moves as well. By moves a run only goes forward; it begins to be running
exactly when the first script begins before any teardown. Once it is disposed it stays as it is,
also for code that was under way then: from the moment at which its teardown was closed nothing is
declared, included, kept or set going. No operation on a run that is disposed depends on what there
would be to call, but for those that ask for a call or for the host. -/
theorem disposed_is_final (s : Setting κ σ) :
    (∀ r, Moment s r → ∀ depth (g : Guest κ σ) context vars,
      g.execWatched (Moment s) s (s.invokeWatched (Moment s) depth) depth context vars r =
        g.exec s (s.invoke depth) depth context vars r) ∧
    (∀ depth fuel (g : Guest κ σ) context vars r o vars' r',
      g.exec s (s.invoke depth) fuel context vars r = some (o, vars', r') → Moves s r r') ∧
    (∀ depth fuel panicking r o r',
      Run.drop s (s.invoke depth) fuel panicking r = some (o, r') → Moves s r r') ∧
    (∀ r r', Moves s r r' → r.lifecycle.stage ≤ r'.lifecycle.stage) ∧
    (∀ r, Moment s r → r.isTorn = false → (r.lifecycle = .running ↔ r.HasBegun)) ∧
    (∀ r r', Moment s r → Move s r r' →
      (r.lifecycle = .created ∧ r'.lifecycle = .running ↔
        r.isTorn = false ∧ ¬r.HasBegun ∧ ∃ i, r'.events = r.events ++ [.began (.script i)])) ∧
    (∀ r r', Moment s r → r.isDisposed = true → Moves s r r' → Frozen r r') ∧
    (∀ r r', Moment s r → r.isDisposed = false → Moves s r r' → r'.isDisposed = true →
      ∃ q, Moves s r q ∧ q.lifecycle = .shuttingDown ∧ q.callbacks = [] ∧
        Frozen (q.closed s) r') ∧
    ∀ r, r.isDisposed = true → ∀ op : Op κ σ, op.reachesOut = false →
      ∀ (surroundings : Setting κ σ) (call call' : Invoke κ σ) fuel vars,
        op.perform (s.within surroundings) call' fuel vars r = op.perform s call fuel vars r := by
  refine ⟨fun r hr => hr.watched, ?_, ?_, fun r r' h => h.stage_le, fun r hr => hr.running_iff,
    fun r r' hr h => hr.begins_iff h, fun r r' hr hd h => hr.frozen hd h, ?_, ?_⟩
  · intro depth fuel g context vars r o vars' r' h
    exact (stretch_exec (stretches_invoke s depth) h).moves
  · intro depth fuel panicking r o r' h
    obtain ⟨o', h⟩ := Run.dispose_of_drop h
    exact (stretch_dispose (stretches_invoke s depth) h).moves
  · intro r r' hr hd h hd'
    obtain ⟨q, hq, hl, hc, hlater⟩ := h.exists_closed hd hd'
    have hclosed : Moment s (q.closed s) := (hr.later hq).later (.single (.close hl hc))
    exact ⟨q, hq, hl, hc, hclosed.frozen rfl hlater⟩
  · intro r hd op hop surroundings call call' fuel vars
    exact perform_of_isDisposed hd hop surroundings call' vars

/-! ### A script that disposes of its own run -/

/-- A script that disposes of the run and then goes on as if it had not. -/
def Setting.heedless : Setting Bool Nat :=
  { Setting.plain { Application.empty with scripts := ⟨[⟨0, "a", true⟩, ⟨1, "b", false⟩]⟩ } with
    autoload := some false
    code := fun disposes _ =>
      if disposes then
        .ask .dispose fun _ => .ask (.declareFunction ⟨⟨1⟩, "f", none, false⟩) fun _ =>
          .ask (.includeGlobal "b" false true) fun _ => .ask (.resolveType "T" none true) fun _ =>
            .ask (.onShutdown false) fun _ => .ask (.track "/tmp/a") fun _ => .done (.ok .null)
      else .done (.ok .null) }

/-- What the script does after it has disposed of the run leaves the run as it was. -/
theorem disposed_is_final_heedless :
    ∃ r' q, Setting.heedless.run 4 (.ask (.runEntry "a") .done) (Setting.heedless.start none 0) =
        some (.ok .null, r') ∧
      Moves Setting.heedless (Setting.heedless.start none 0) q ∧
      q.lifecycle = .shuttingDown ∧ q.callbacks = [] ∧ Frozen (q.closed Setting.heedless) r' := by
  obtain ⟨-, -, -, -, -, -, -, hend, -⟩ := disposed_is_final Setting.heedless
  have hstart : Moment Setting.heedless (Setting.heedless.start none 0) := ⟨none, 0, .refl⟩
  obtain ⟨r', hrun, hd⟩ : ∃ r', Setting.heedless.run 4 (.ask (.runEntry "a") .done)
      (Setting.heedless.start none 0) = some (.ok .null, r') ∧ r'.isDisposed = true :=
    ⟨_, rfl, rfl⟩
  obtain ⟨q, hq⟩ := hend _ r' hstart rfl (stretch_run hrun).moves hd
  exact ⟨r', q, hrun, hq⟩

example :
    (Setting.heedless.run 4 (.ask (.runEntry "a") .done) (Setting.heedless.start none 0)).map
        (fun (_, r) => stepsIn r.events) =
      some [.script 0, .closeSession, .flush] :=
  rfl

end ScriptRun
