import ScriptRun.Proofs.Run.Disposal

/-!
# Conservation

Nothing that a run accepts is lost, and nothing is released or deleted twice, in whatever order
things are registered and taken back, by the host, by scripts or by shutdown callbacks, and however
often the run is disposed of.
-/

namespace ScriptRun

open Relation

variable {κ σ : Type} {s : Setting κ σ} {r r' r₁ : Run κ σ}

/-! ### Numbers of resources -/

/-- A number that had been issued is issued to no other resource. -/
structure Numbered (r r' : Run κ σ) : Prop where
  grows : r.nextResource ≤ r'.nextResource
  old : ∀ x ∈ r'.resources, x.1 < r.nextResource → x ∈ r.resources

namespace Numbered

lemma of_eq (hn : r'.nextResource = r.nextResource) (hr : r'.resources = r.resources) :
    Numbered r r' where
  grows := Nat.le_of_eq hn.symm
  old _ hx _ := hr ▸ hx

lemma trans (h : Numbered r r₁) (h' : Numbered r₁ r') : Numbered r r' where
  grows := Nat.le_trans h.grows h'.grows
  old x hx hlt := h.old x (h'.old x hx (Nat.lt_of_lt_of_le hlt h.grows)) hlt

lemma bookkeeping (h : Bookkeeping r r') : Numbered r r' := by
  cases h with
  | quiet h => exact .of_eq h.nextResource h.resources
  | kept resource hr =>
    refine ⟨Nat.le_succ _, fun x hx hlt => ?_⟩
    rcases List.mem_append.1 hx with hx | hx
    · exact hx
    · rw [List.mem_singleton.1 hx] at hlt
      exact absurd hlt (Nat.lt_irrefl _)
  | handedBack id h => exact ⟨Nat.le_refl _, fun x hx _ => (List.mem_filter.1 hx).1⟩
  | queued | tracked | untracked => exact .of_eq rfl rfl

lemma move (h : Move s r r') : Numbered r r' := by
  cases h with
  | change h => exact .bookkeeping h.bookkeeping
  | close => exact ⟨Nat.le_refl _, fun x hx _ => absurd hx List.not_mem_nil⟩
  | tearDown | callback | concluded => exact .of_eq rfl rfl

lemma moves (h : Moves s r r') : Numbered r r' := by
  induction h with
  | refl => exact .of_eq rfl rfl
  | tail _ h ih => exact ih.trans (.move h)

end Numbered

/-! ### The end of a run -/

/-- What the journal of a run says in the end about all that the run accepted. -/
structure Settled (r : Run κ σ) : Prop where
  /-- Every callback that was accepted was called, each as often as it was accepted. -/
  callbacks : callbacksIn r.events = queuedIn r.events
  /-- No number was issued twice. -/
  issued : (keptIn r.events).Nodup
  /-- Every resource was handed back or released: one of the two, and once. -/
  released : (keptIn r.events).Perm (handedBackIn r.events ++ disposedIn r.events)
  /-- The deletion of no file was attempted twice. -/
  deleted : (removedIn r.events).Pairwise fun p p' => Path.samePath p p' = false
  /-- A deletion was attempted of exactly the files that were tracked last. -/
  tracked : ∀ path, Listed (removedIn r.events) path ↔ lastTracking r.events path = some true

lemma Moment.settled (hr : Moment s r) (hd : r.isDisposed = true) : Settled r := by
  have hc := hr.callbacks
  have hres := hr.resources
  have hf := hr.files
  have hdistinct := hf.distinct
  have hlast := hf.last
  have hheld := hres.held
  -- of a run that is disposed of the books are empty, and only the journal is left to balance
  rw [hf.emptied hd, List.append_nil] at hdistinct hlast
  rw [hres.emptied hd, List.map_nil, List.append_nil] at hheld
  refine ⟨?_, ?_, hheld, hdistinct, hlast⟩
  · rw [hc.queued, hc.emptied hd, List.append_nil]
  · rw [hres.issued]
    exact List.nodup_range

/-- Disposing of a run that is not amid a teardown leaves it disposed of. -/
lemma isDisposed_of_dispose {call : Invoke κ σ} {fuel : Nat} {o : Outcome Unit}
    (hl : r.lifecycle ≠ .shuttingDown) (h : Run.dispose s call fuel r = some (o, r')) :
    r'.isDisposed = true := by
  obtain ⟨p, h⟩ := Run.teardown_of_dispose h
  cases ht : r.isTorn with
  | true =>
    rw [Run.teardown_of_isTorn s call fuel ht] at h
    cases h
    rw [Run.isDisposed, (Run.isTorn_eq_true_iff.1 ht).resolve_left hl]
    rfl
  | false =>
    rw [Run.teardown_of_not_isTorn s call fuel ht] at h
    obtain ⟨u, -, heq⟩ := Option.map_eq_some_iff.1 h
    cases heq
    rfl

/-- All that a run accepts is conserved. As long as it is not disposed of, a file is to be deleted
exactly if it was tracked last, and what has a number is what that number was issued to. Disposing
of the run and giving it up both end in a run that is disposed of, and there the journal accounts
for everything, whatever happens afterwards. This is under the assumption on sinks: with one that
panics amid the teardown, the run would not be disposed of. -/
theorem everything_accounted_for (s : Setting κ σ) :
    (∀ r, Moment s r → r.isDisposed = false →
      ∀ path, r.isTemporary path = true ↔ lastTracking r.events path = some true) ∧
    (∀ r r', Moves s r r' → ∀ id resource, id < r.nextResource →
      (id, resource) ∈ r'.resources → (id, resource) ∈ r.resources) ∧
    (∀ r, Hosted s r → ∀ n fuel o r', Run.dispose s (s.invoke n) fuel r = some (o, r') →
      Moment s r' ∧ r'.isDisposed = true) ∧
    (∀ r, Hosted s r → ∀ n fuel panicking o r',
      Run.drop s (s.invoke n) fuel panicking r = some (o, r') →
        Moment s r' ∧ r'.isDisposed = true) ∧
    ∀ r, Moment s r → r.isDisposed = true → Settled r := by
  have hdispose (r : Run κ σ) (hr : Hosted s r) (n fuel : Nat) (o : Outcome Unit) (r' : Run κ σ)
      (h : Run.dispose s (s.invoke n) fuel r = some (o, r')) :
      Moment s r' ∧ r'.isDisposed = true := by
    obtain ⟨hm, hl⟩ := hr.moment
    exact ⟨hm.stretch (stretch_dispose (stretches_invoke s n) h), isDisposed_of_dispose hl h⟩
  refine ⟨?_, ?_, hdispose, ?_, fun r hr hd => hr.settled hd⟩
  · intro r hr hd path
    exact hr.files.isTemporary_iff hd path
  · intro r r' h id resource hid hmem
    exact (Numbered.moves h).old (id, resource) hmem hid
  · intro r hr n fuel panicking o r' h
    obtain ⟨o', h⟩ := Run.dispose_of_drop h
    exact hdispose r hr n fuel o' r' h

theorem everything_accounted_for_failing :
    ∃ o r', Run.drop Setting.failing (Setting.failing.invoke 2) 2 true Setting.failingRun =
      some (o, r') ∧ Settled r' := by
  obtain ⟨-, -, -, hdrop, hsettled⟩ := everything_accounted_for Setting.failing
  have hsome : (Run.drop Setting.failing (Setting.failing.invoke 2) 2 true
      Setting.failingRun).isSome := rfl
  obtain ⟨⟨o, r'⟩, h⟩ := Option.isSome_iff_exists.1 hsome
  obtain ⟨hm, hd⟩ := hdrop _ hosted_failingRun 2 2 true o r' h
  exact ⟨o, r', h, hsettled r' hm hd⟩

end ScriptRun
