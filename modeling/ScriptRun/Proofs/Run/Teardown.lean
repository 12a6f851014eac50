import ScriptRun.Proofs.Run.Stretch

/-!
# The callbacks of a teardown

The callbacks run one after another until none is left. `Drained` says so without bounds: it lists
the calls that were made, what happened during each, and how each ended. Code that a callback runs
cannot get the teardown any further, so the list is in the order of registration whatever the
callbacks do (`Drained.order`), and a whole teardown is a stretch like any other.
-/

namespace ScriptRun

open Relation

variable {κ σ : Type} {s : Setting κ σ} {call : Invoke κ σ} {fuel : Nat} {r r' r₁ : Run κ σ}

/-! ### Calls of callbacks -/

/-- A callback that a teardown ran, what happened while it ran, and how it ended. -/
structure CallbackRun (κ : Type) where
  code : κ
  during : List (Event κ)
  outcome : Outcome Unit

/-- What the journal says about the call of a callback. -/
def CallbackRun.events (c : CallbackRun κ) : List (Event κ) :=
  .began (.callback c.code) :: c.during ++ Run.settled "shutdown callback" c.outcome

/-- The callbacks of a run are called in turn until none is left. -/
inductive Drained (s : Setting κ σ) (call : Invoke κ σ) :
    Run κ σ → List (CallbackRun κ) → Run κ σ → Prop
  | done {r : Run κ σ} (hnil : r.callbacks = []) : Drained s call r [] r
  | next {r r₁ r' : Run κ σ} {code : κ} {rest : List κ} {o : Outcome Value} {vars : Variables}
      {during : List (Event κ)} {ran : List (CallbackRun κ)} (hcons : r.callbacks = code :: rest)
      (hcall : call code .none none .global (r.calling code rest) = some (o, vars, r₁))
      (hduring : r₁.events = (r.calling code rest).events ++ during)
      (h : Drained s call (r₁.settle s "shutdown callback" o.void) ran r') :
      Drained s call r (⟨code, during, o.void⟩ :: ran) r'

/-- While a callback runs, the run stays in teardown. -/
lemma meanwhile_callback (hc : call.Stretches s) (hl : r.lifecycle = .shuttingDown) {code : κ}
    {rest : List κ} {o : Outcome Value} {vars : Variables}
    (h : call code .none none .global (r.calling code rest) = some (o, vars, r₁)) :
    ∃ during, Meanwhile (r.calling code rest) r₁ during := by
  have ht : (r.calling code rest).isTorn = true := Run.isTorn_eq_true_iff.2 (.inl hl)
  exact ((hc h).torn ht).meanwhile ht

/-! ### What becomes of the run -/

namespace Drained

/-- What the calls of the callbacks come to. -/
structure Result (s : Setting κ σ) (r : Run κ σ) (ran : List (CallbackRun κ)) (r' : Run κ σ) :
    Prop where
  moves : Moves s r r'
  lifecycle : r'.lifecycle = .shuttingDown
  callbacks : r'.callbacks = []
  events : r'.events = r.events ++ ran.flatMap CallbackRun.events
  idle : ∀ c ∈ ran, ∀ e ∈ c.during, e.ofTeardown = false
  /-- Callbacks run as they were registered, those that callbacks register behind all others. -/
  order : ran.map (·.code) = r.callbacks ++ queuedIn (ran.flatMap (·.during))

lemma result (hc : call.Stretches s) {ran : List (CallbackRun κ)} (hl : r.lifecycle = .shuttingDown)
    (h : Drained s call r ran r') : Result s r ran r' := by
  induction h with
  | done hnil => exact ⟨.refl, hl, hnil, by simp, by simp, by simp [hnil]⟩
  | @next r r₁ r' code rest o vars during ran hcons hcall hduring _ ih =>
    obtain ⟨during', hm⟩ := meanwhile_callback hc hl hcall
    -- what happened meanwhile is what the journal gained
    have hd : during' = during := List.append_cancel_left (hm.events.symm.trans hduring)
    subst hd
    have hl₁ : r₁.lifecycle = .shuttingDown := hm.lifecycle.trans hl
    have hrest := ih hl₁
    refine ⟨?_, hrest.lifecycle, hrest.callbacks, ?_, ?_, ?_⟩
    · exact .head (.callback code rest hl hcons)
        ((hc hcall).moves.trans (.head (.concluded o.void hl₁) hrest.moves))
    · rw [hrest.events, Run.events_settle, hm.events, Run.events_calling]
      simp only [List.flatMap_cons, CallbackRun.events, List.append_assoc, List.cons_append,
        List.nil_append]
    · intro c hmem
      rcases List.mem_cons.1 hmem with rfl | hmem
      · exact hm.idle
      · exact hrest.idle c hmem
    · have hcallbacks : r₁.callbacks = rest ++ queuedIn during' := hm.callbacks
      rw [List.map_cons, hrest.order, hcons, List.flatMap_cons]
      simp only [Run.settle, hcallbacks, List.filterMap_append, List.cons_append,
        List.append_assoc]

end Drained

/-- Draining the callbacks within bounds is calling them in turn; the first panic among them comes
behind one that there was already. -/
lemma drained_of_drain (hc : call.Stretches s) {u u' : Run.Unwinding κ σ}
    (hl : u.run.lifecycle = .shuttingDown) (h : Run.drain s call fuel u = some u') :
    ∃ ran, Drained s call u.run ran u'.run ∧
      u'.panicked = u.panicked.or (Run.firstPanic (ran.map (·.outcome))) := by
  -- on the bound, one for each callback; the panic so far goes along, so it stays in front
  induction fuel generalizing u with
  | zero =>
    cases hcb : u.run.callbacks with
    | nil =>
      rw [Run.drain_nil s call 0 hcb] at h
      cases h
      exact ⟨[], .done hcb, Option.or_none.symm⟩
    | cons code rest =>
      rw [Run.drain_zero_cons s call hcb] at h
      cases h
  | succ fuel ih =>
    cases hcb : u.run.callbacks with
    | nil =>
      rw [Run.drain_nil s call (fuel + 1) hcb] at h
      cases h
      exact ⟨[], .done hcb, Option.or_none.symm⟩
    | cons code rest =>
      rw [Run.drain_succ_cons s call fuel hcb] at h
      obtain ⟨⟨o, vars, r₁⟩, hcall, h⟩ := Option.bind_eq_some_iff.1 h
      obtain ⟨during, hm⟩ := meanwhile_callback hc hl hcall
      obtain ⟨ran, hran, hp⟩ := ih (u := ⟨r₁.settle s "shutdown callback" o.void, _⟩)
        (hm.lifecycle.trans hl) h
      refine ⟨⟨code, during, o.void⟩ :: ran, .next hcb hcall hm.events hran, ?_⟩
      rw [hp, List.map_cons, Run.firstPanic_cons, Option.or_assoc]

/-! ### A whole teardown -/

lemma stretch_teardown (hc : call.Stretches s) {p : Option Payload}
    (h : Run.teardown s call fuel r = some (p, r')) : Stretch s r r' := by
  cases ht : r.isTorn with
  | true =>
    rw [Run.teardown_of_isTorn s call fuel ht] at h
    cases h
    exact .refl r
  | false =>
    rw [Run.teardown_of_not_isTorn s call fuel ht] at h
    obtain ⟨u, hu, heq⟩ := Option.map_eq_some_iff.1 h
    cases heq
    obtain ⟨ran, hran, -⟩ := drained_of_drain hc rfl hu
    have hres := hran.result hc rfl
    refine ⟨.head (.tearDown ht) (hres.moves.tail (.close hres.lifecycle hres.callbacks)), ?_, ?_⟩
    · intro ht'
      rw [ht] at ht'
      cases ht'
    · intro _ hl
      cases hl

lemma stretch_dispose (hc : call.Stretches s) {o : Outcome Unit}
    (h : Run.dispose s call fuel r = some (o, r')) : Stretch s r r' := by
  obtain ⟨p, h⟩ := Run.teardown_of_dispose h
  exact stretch_teardown hc h

end ScriptRun
