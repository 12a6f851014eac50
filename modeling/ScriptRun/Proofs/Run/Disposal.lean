import ScriptRun.Proofs.Run.Balance

/-!
# Disposal

What a teardown does from its beginning to its end. The callbacks run as they were registered; what
is left by then is carried out step by step, and no step is left out because an earlier one failed
or panicked. Whatever the callbacks and the surroundings do, the run ends up disposed of and with
empty books, and the first panic is raised again only then.
-/

namespace ScriptRun

variable {κ σ : Type} {s : Setting κ σ} {r r' q : Run κ σ}

/-! ### Steps of a teardown -/

/-- The step of a teardown that an event begins. -/
def Event.stepOfTeardown? : Event κ → Option (Step κ)
  | .began step => if (Event.began step).ofTeardown then some step else none
  | _ => none

/-- The steps of teardowns, in the order in which they were begun. -/
abbrev teardownStepsIn (events : List (Event κ)) : List (Step κ) :=
  events.filterMap Event.stepOfTeardown?

lemma teardownStepsIn_append (l l' : List (Event κ)) :
    teardownStepsIn (l ++ l') = teardownStepsIn l ++ teardownStepsIn l' :=
  List.filterMap_append

lemma Event.stepOfTeardown?_of_ofTeardown {e : Event κ} (h : e.ofTeardown = false) :
    e.stepOfTeardown? = none := by
  cases e with
  | began step => rw [stepOfTeardown?, h]; rfl
  | _ => rfl

lemma Event.stepOfTeardown?_closing (c : Closing σ) :
    (Event.began (κ := κ) c.step).stepOfTeardown? = some c.step := by
  cases c <;> rfl

lemma Event.skips_stepOfTeardown? : Event.Skips (Event.stepOfTeardown? (κ := κ)) :=
  ⟨fun _ _ => rfl, fun _ => rfl⟩

/-- Of the call of a callback, the call itself is the only step. -/
lemma teardownStepsIn_callbackRun {c : CallbackRun κ}
    (hc : ∀ e ∈ c.during, e.ofTeardown = false) :
    teardownStepsIn c.events = [.callback c.code] := by
  have hduring : teardownStepsIn c.during = [] :=
    List.filterMap_eq_nil_iff.2 fun e he => Event.stepOfTeardown?_of_ofTeardown (hc e he)
  have hsettled :
      teardownStepsIn (Run.settled "shutdown callback" c.outcome : List (Event κ)) = [] :=
    filterMap_settled Event.skips_stepOfTeardown? _ _
  rw [CallbackRun.events, ← List.singleton_append, List.append_assoc, teardownStepsIn_append,
    teardownStepsIn_append, hduring, hsettled]
  rfl

lemma teardownStepsIn_callbacks {ran : List (CallbackRun κ)}
    (hran : ∀ c ∈ ran, ∀ e ∈ c.during, e.ofTeardown = false) :
    teardownStepsIn (ran.flatMap CallbackRun.events) = ran.map fun c => .callback c.code := by
  induction ran with
  | nil => rfl
  | cons c ran ih =>
    obtain ⟨hc, hran⟩ := List.forall_mem_cons.1 hran
    rw [List.flatMap_cons, teardownStepsIn_append, teardownStepsIn_callbackRun hc, ih hran,
      List.map_cons, List.singleton_append]

/-- The steps that are left to do for a run. -/
def Run.stepsLeft (r : Run κ σ) : List (Step κ) :=
  r.resources.map (fun (id, _) => .dispose id) ++ [.closeSession, .flush] ++
    r.temporaries.map .remove

lemma teardownStepsIn_closingEvents {os : List (Outcome Unit)} (h : os.length = r.closings.length) :
    teardownStepsIn (Run.closingEvents r.closings os : List (Event κ)) = r.stepsLeft := by
  have hsome (c : Closing σ) :
      (Event.began (κ := κ) c.step).stepOfTeardown? = some c.step := Event.stepOfTeardown?_closing c
  rw [teardownStepsIn, filterMap_closingEvents Event.skips_stepOfTeardown? h]
  simp only [hsome, List.filterMap_eq_map', Run.closings, Run.releases, Run.deletions,
    Run.stepsLeft, List.map_append, List.map_map]
  rfl

/-! ### Warnings -/

/-- At its end a step that succeeded leaves nothing but that it ended; one that failed or panicked
leaves one warning behind that. -/
lemma Run.settled_cases (step : String) (o : Outcome Unit) :
    (o = .ok () ∧ (settled step o : List (Event κ)) = [.concluded step o]) ∨
      ∃ d : Diagnostic, o ≠ .ok () ∧ d.level = .warning ∧ d.code = "HW0003" ∧
        (settled step o : List (Event κ)) = [.concluded step o, .reported d] := by
  cases o with
  | ok => exact .inl ⟨rfl, rfl⟩
  | error e => exact .inr ⟨stepFailed step e.message, nofun, rfl, rfl, rfl⟩
  | panic p =>
    exact .inr ⟨stepFailed step ("panicked: " ++ p.message), nofun, rfl, rfl, rfl⟩

/-! ### Whole disposals -/

/-- What the outcomes of the steps of a teardown come to: the first panic, if there is one. -/
def Run.raised (os : List (Outcome Unit)) : Outcome Unit :=
  match firstPanic os with
  | some p => .panic p
  | none => .ok ()

/-- A run is torn down: `ran` are the calls of its callbacks, `q` what they leave of it, `os` how
each step after them ends, and `r'` what becomes of the run. -/
structure Disposal (s : Setting κ σ) (call : Invoke κ σ) (r : Run κ σ) (ran : List (CallbackRun κ))
    (q : Run κ σ) (os : List (Outcome Unit)) (r' : Run κ σ) : Prop where
  /-- The callbacks are called in turn until none is left. -/
  drained : Drained s call r.tornDown ran q
  /-- They are called as they were registered, those that callbacks register behind all others. -/
  order : ran.map (·.code) = r.callbacks ++ queuedIn (ran.flatMap (·.during))
  /-- No step of a teardown is taken while a callback runs. -/
  idle : ∀ c ∈ ran, ∀ e ∈ c.during, e.ofTeardown = false
  /-- What is left by then is carried out. -/
  ended : Run.carryOut s q.closings q.world = (os, r'.world)
  steps : teardownStepsIn r'.events =
    teardownStepsIn r.events ++ ran.map (fun c => .callback c.code) ++ q.stepsLeft
  /-- Resources are released by increasing number. -/
  ascending : (q.resources.map (·.1)).Pairwise (· < ·)
  /-- No file is deleted twice, under another spelling or the same. -/
  distinct : q.temporaries.Pairwise fun p p' => Path.samePath p p' = false
  /-- Each step is begun and settled in its turn. -/
  events : r'.events =
    r.events ++ ran.flatMap CallbackRun.events ++ Run.closingEvents q.closings os
  lifecycle : r'.lifecycle = .disposed
  callbacks : r'.callbacks = []
  resources : r'.resources = []
  temporaries : r'.temporaries = []

/-- What is left when the callbacks have run is carried out, whatever they did. -/
lemma Disposal.of_drained {call : Invoke κ σ} (hc : call.Stretches s) (hr : Moment s r)
    (ht : r.isTorn = false) {ran : List (CallbackRun κ)} (h : Drained s call r.tornDown ran q) :
    Disposal s call r ran q (Run.carryOut s q.closings q.world).1 (q.closed s) := by
  have hres := h.result hc rfl
  have hq : Moment s q := (hr.later (.single (.tearDown ht))).later hres.moves
  have hevents : q.events = r.events ++ ran.flatMap CallbackRun.events := hres.events
  refine
    { drained := h
      order := hres.order
      idle := hres.idle
      ended := rfl
      steps := ?_
      ascending := hq.resources.ascending
      distinct := hq.files.distinct_temporaries
      events := ?_
      lifecycle := rfl
      callbacks := hres.callbacks
      resources := rfl
      temporaries := rfl }
  · rw [Run.events_closed, hevents, teardownStepsIn_append, teardownStepsIn_append,
      teardownStepsIn_callbacks hres.idle,
      teardownStepsIn_closingEvents (Run.length_carryOut s _ _)]
  · rw [Run.events_closed, hevents]

/-- A run that is given up before any teardown is torn down completely, provided that its callbacks
come to an end: all callbacks, then all that is left, and of the panics only the first is raised,
after all else. Each step leaves a warning exactly if it did not succeed. -/
theorem dispose_complete {n fuel : Nat} (hr : Moment s r)
    (hl : r.lifecycle = .created ∨ r.lifecycle = .running)
    (hd : (Run.drain s (s.invoke n) fuel ⟨r.tornDown, none⟩).isSome) :
    (∃ ran q os r', Disposal s (s.invoke n) r ran q os r' ∧
      Run.dispose s (s.invoke n) fuel r = some (Run.raised (ran.map (·.outcome) ++ os), r')) ∧
    ∀ step o,
      (o = .ok () ∧ (Run.settled step o : List (Event κ)) = [.concluded step o]) ∨
        ∃ d : Diagnostic, o ≠ .ok () ∧ d.level = .warning ∧ d.code = "HW0003" ∧
          (Run.settled step o : List (Event κ)) = [.concluded step o, .reported d] := by
  refine ⟨?_, Run.settled_cases⟩
  have ht : r.isTorn = false := Run.isTorn_eq_false_iff.2 hl
  have hc : (s.invoke n).Stretches s := stretches_invoke s n
  obtain ⟨u, hu⟩ := Option.isSome_iff_exists.1 hd
  obtain ⟨ran, hran, hp⟩ := drained_of_drain hc rfl hu
  refine ⟨ran, u.run, _, _, .of_drained hc hr ht hran, ?_⟩
  rw [Run.dispose, Run.teardown_of_not_isTorn s _ fuel ht, hu, Option.map_some, Option.map_some, hp,
    Option.none_or, ← Run.firstPanic_append, Run.raised]
  cases Run.firstPanic (ran.map (·.outcome) ++ (Run.carryOut s u.run.closings u.run.world).1) with
  | none => rfl
  | some p => rfl

/-! ### A run in which much fails -/

/-- A callback that registers another one, disposes of the run in vain and panics; the other one
has a file deleted and keeps a resource, which panics as well. The session cannot be closed, nor the
output be flushed. -/
def Setting.failing : Setting Bool Nat where
  app := .empty
  options := .standard
  host :=
    { write := fun _ w => (.ok (), w)
      flush := fun w => (.error (.io "no space left"), w)
      closeSession := fun w => (.panic .untold, w) }
  streams :=
    { read := fun _ w => (.error .notFound, w)
      remove := fun _ w => (.error .notFound, w + 1) }
  sink := fun _ w => w + 1
  autoload := none
  code := fun first _ =>
    if first then
      .ask (.onShutdown false) fun _ => .ask .dispose fun _ => .done (.panic (.text "first"))
    else
      .ask (.track "/tmp/a") fun _ =>
        .ask (.keep ⟨fun w => (.panic (.text "second"), w)⟩) fun _ => .done (.ok .null)
  search := fun _ _ _ => .done (.ok none)

/-- A run whose host has registered the first callback. -/
def Setting.failingRun : Run Bool Nat := (failing.start none 0).onShutdown true

lemma hosted_failingRun : Hosted Setting.failing Setting.failingRun := by
  have h : Setting.failing.run 0 (.ask (.onShutdown true) fun _ => .done (.ok .null))
      (Setting.failing.start none 0) = some (.ok .null, Setting.failingRun) := rfl
  exact .run (.start none 0) h

theorem dispose_complete_failing :
    ∃ ran q os r',
      Disposal Setting.failing (Setting.failing.invoke 2) Setting.failingRun ran q os r' ∧
        Run.dispose Setting.failing (Setting.failing.invoke 2) 2 Setting.failingRun =
          some (Run.raised (ran.map (·.outcome) ++ os), r') :=
  (dispose_complete hosted_failingRun.moment.1 (.inl rfl) (by rfl)).1

example :
    (Run.dispose Setting.failing (Setting.failing.invoke 2) 2 Setting.failingRun).map
        (fun (o, r) => (o, teardownStepsIn r.events)) =
      some (.panic (.text "first"),
        [.callback true, .callback false, .dispose 0, .closeSession, .flush, .remove "/tmp/a"]) :=
  rfl

end ScriptRun
