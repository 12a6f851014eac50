import ScriptRun.Proofs.Run.Books

/-!
# Stretches of execution

A stretch of execution is a sequence of moves that makes no move of a teardown once one has begun.
So what code does while the run is torn down is a sequence of changes: the teardown gets no further
by it, no step of it shows in the journal, and of the callbacks there only become more
(`Meanwhile`).
-/

namespace ScriptRun

open Relation

variable {κ σ : Type} {s : Setting κ σ} {r r' r₁ : Run κ σ}

/-! ### Stretches -/

lemma Change.lifecycle (h : Change s r r') :
    r'.lifecycle = r.lifecycle ∨ r.lifecycle = .created ∧ r'.lifecycle = .running := by
  cases h.bookkeeping with
  | quiet h => exact h.lifecycle
  | queued | kept | handedBack | tracked | untracked => exact .inl rfl

lemma Change.isTorn (h : Change s r r') : r'.isTorn = r.isTorn := by
  rw [Run.isTorn, Run.isTorn]
  rcases h.lifecycle with h | ⟨h, h'⟩
  · rw [h]
  · rw [h, h']

lemma Change.lifecycle_eq (h : Change s r r') (ht : r.isTorn = true) :
    r'.lifecycle = r.lifecycle := by
  rcases h.lifecycle with h | ⟨h, -⟩
  · exact h
  · rw [Run.isTorn, h] at ht
    cases ht

lemma Changes.isTorn (h : Changes s r r') : r'.isTorn = r.isTorn := by
  induction h with
  | refl => rfl
  | tail _ h ih => exact h.isTorn.trans ih

/-- A sequence of moves, with none of a teardown if one has begun, that does not end amid a teardown
unless it began there. -/
structure Stretch (s : Setting κ σ) (r r' : Run κ σ) : Prop where
  moves : Moves s r r'
  torn : r.isTorn = true → Changes s r r'
  whole : r.lifecycle ≠ .shuttingDown → r'.lifecycle ≠ .shuttingDown

namespace Stretch

lemma refl (r : Run κ σ) : Stretch s r r := ⟨.refl, fun _ => .refl, id⟩

lemma trans (h : Stretch s r r₁) (h' : Stretch s r₁ r') : Stretch s r r' where
  moves := h.moves.trans h'.moves
  torn ht := by
    have hc := h.torn ht
    exact hc.trans (h'.torn (hc.isTorn.trans ht))
  whole hl := h'.whole (h.whole hl)

lemma ofChange (h : Change s r r') : Stretch s r r' where
  moves := .single (.change h)
  torn _ := .single h
  whole hl := by
    rcases h.lifecycle with h | ⟨-, h⟩
    · exact h ▸ hl
    · rw [h]
      decide

/-- A stretch and a change after it. -/
lemma tail (h : Stretch s r r₁) (h' : Change s r₁ r') : Stretch s r r' := h.trans (.ofChange h')

/-- A stretch after a change. -/
lemma head (h : Change s r r₁) (h' : Stretch s r₁ r') : Stretch s r r' := .trans (.ofChange h) h'

end Stretch

/-- Calls make stretches. -/
def Invoke.Stretches (s : Setting κ σ) (call : Invoke κ σ) : Prop :=
  ∀ {code input context vars r o vars' r'},
    call code input context vars r = some (o, vars', r') → Stretch s r r'

/-! ### While a run is torn down -/

/-- What code makes of a run in teardown: steps of teardown do not show in the journal, and the
callbacks that were accepted stand behind those that were there. -/
structure Meanwhile (r r' : Run κ σ) (during : List (Event κ)) : Prop where
  lifecycle : r'.lifecycle = r.lifecycle
  events : r'.events = r.events ++ during
  idle : ∀ e ∈ during, e.ofTeardown = false
  callbacks : r'.callbacks = r.callbacks ++ queuedIn during

namespace Meanwhile

variable {during during' : List (Event κ)}

lemma refl (r : Run κ σ) : Meanwhile r r [] :=
  ⟨rfl, (List.append_nil _).symm, by simp, (List.append_nil _).symm⟩

lemma trans (h : Meanwhile r r₁ during) (h' : Meanwhile r₁ r' during') :
    Meanwhile r r' (during ++ during') where
  lifecycle := h'.lifecycle.trans h.lifecycle
  events := by rw [h'.events, h.events, List.append_assoc]
  idle e he := (List.mem_append.1 he).elim (h.idle e) (h'.idle e)
  callbacks := by simp only [h'.callbacks, h.callbacks, List.filterMap_append, List.append_assoc]

/-- Writing into the books for something other than a callback. -/
lemma record {e : Event κ} (hl : r₁.lifecycle = r.lifecycle) (hj : r₁.journal = r.journal)
    (hc : r₁.callbacks = r.callbacks) (ht : e.ofTeardown = false) (hq : e.queued? = none) :
    Meanwhile r (r₁.record e) [e] where
  lifecycle := hl
  events := by rw [Run.events_record, Run.events, hj, Run.events]
  idle e' he' := List.mem_singleton.1 he' ▸ ht
  callbacks := by
    rw [queuedIn, List.filterMap_cons_none hq, List.filterMap_nil, List.append_nil]
    exact hc

end Meanwhile

lemma Event.queued?_of_ofBooks {e : Event κ} (h : e.ofBooks = false) : e.queued? = none := by
  cases e with
  | queued => cases h
  | _ => rfl

lemma Change.meanwhile (h : Change s r r') (ht : r.isTorn = true) :
    ∃ during, Meanwhile r r' during := by
  cases h.bookkeeping with
  | quiet hq =>
    obtain ⟨during, hev, hidle⟩ := hq.events
    refine ⟨during, h.lifecycle_eq ht, hev, ?_, ?_⟩
    · exact fun e he => Event.ofTeardown_of_ofBooks (hidle e he)
    · rw [queuedIn, filterMap_eq_nil_of_idle (fun _ => Event.queued?_of_ofBooks) hidle, hq.callbacks,
        List.append_nil]
  | queued code =>
    exact ⟨[.queued code], rfl, Run.events_record _ _, by simp [Event.ofTeardown], rfl⟩
  | kept => exact ⟨_, .record rfl rfl rfl rfl rfl⟩
  | handedBack => exact ⟨_, .record rfl rfl rfl rfl rfl⟩
  | tracked => exact ⟨_, .record rfl rfl rfl rfl rfl⟩
  | untracked => exact ⟨_, .record rfl rfl rfl rfl rfl⟩

lemma Changes.meanwhile (h : Changes s r r') (ht : r.isTorn = true) :
    ∃ during, Meanwhile r r' during := by
  induction h with
  | refl => exact ⟨[], .refl r⟩
  | tail hs h ih =>
    obtain ⟨during, hm⟩ := ih
    obtain ⟨during', hm'⟩ := h.meanwhile ((Changes.isTorn hs).trans ht)
    exact ⟨during ++ during', hm.trans hm'⟩

end ScriptRun
