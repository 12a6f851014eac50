import ScriptRun.Proofs.Run.Journal

/-!
# The end of a teardown

When the shutdown callbacks have run, a teardown calls no more code of the run. What is left is
a list of steps that is fixed by then: the resources still kept are released by number, the session
is closed, the output flushed, and the files still tracked are deleted. Each step is a function of
the world alone, so that the end of a teardown comes down to carrying out the list.

Main statement: `finish_eq` says what the end of a teardown makes of a run, whatever becomes of the
single steps.
-/

namespace ScriptRun

variable {κ σ : Type}

/-! ### Steps -/

/-- A step of a teardown that calls no code of the run. -/
inductive Closing (σ : Type) where
  | release (id : Nat) (resource : Resource σ)
  | closeSession
  | flush
  | delete (path : String)

namespace Closing

/-- The step as the journal names it. -/
def step : Closing σ → Step κ
  | release id _ => .dispose id
  | closeSession => .closeSession
  | flush => .flush
  | delete path => .remove path

/-- The step as warnings name it. -/
def label : Closing σ → String
  | release _ _ => "dispose"
  | closeSession => "close session"
  | flush => "flush output"
  | delete path => "delete " ++ path

/-- How an attempt to delete a file counts. One that is not there is no failure. -/
def deletion : FileOutcome Unit → Outcome Unit
  | .ok _ | .error .notFound => .ok ()
  | .error (.other text) => .error (.io text)
  | .panic p => .panic p

/-- Carry the step out. -/
def run (s : Setting κ σ) : Closing σ → σ → Outcome Unit × σ
  | release _ resource, w => resource.dispose w
  | closeSession, w => let (o, w) := s.host.closeSession w; (o.void, w)
  | flush, w => s.host.flush w
  | delete path, w => let (o, w) := s.streams.remove path w; (deletion o, w)

end Closing

namespace Run

/-- The releases that are left to do for a run. -/
def releases (r : Run κ σ) : List (Closing σ) :=
  r.resources.map fun (id, resource) => .release id resource

/-- The deletions that are left to do for a run. -/
def deletions (r : Run κ σ) : List (Closing σ) := r.temporaries.map .delete

/-- What is left to do for a run whose callbacks have run. -/
def closings (r : Run κ σ) : List (Closing σ) :=
  r.releases ++ [.closeSession, .flush] ++ r.deletions

lemma filterMap_closings {α : Type} (f : Closing σ → Option α) (r : Run κ σ) :
    r.closings.filterMap f =
      r.resources.filterMap (fun x => f (.release x.1 x.2)) ++
        ([.closeSession, .flush].filterMap f ++
          r.temporaries.filterMap fun path => f (.delete path)) := by
  rw [closings, releases, deletions, List.append_assoc, List.filterMap_append,
    List.filterMap_append, List.filterMap_map, List.filterMap_map]
  rfl

/-- Tell the sink about a step that did not succeed. -/
def tell (s : Setting κ σ) (step : String) (o : Outcome Unit) (w : σ) : σ :=
  match stepWarning? step o with
  | some d => s.sink d w
  | none => w

/-- What the journal says at the end of a step. -/
def settled (step : String) (o : Outcome Unit) : List (Event κ) :=
  .concluded step o :: ((stepWarning? step o).map .reported).toList

/-- Carry out steps one after another, each of them once and whatever became of those before it:
how each of them ended, and the world afterwards. -/
def carryOut (s : Setting κ σ) : List (Closing σ) → σ → List (Outcome Unit) × σ
  | [], w => ([], w)
  | c :: rest, w =>
    let (o, w) := c.run s w
    let (os, w) := carryOut s rest (tell s c.label o w)
    (o :: os, w)

/-- What the journal says about steps that ended in some way. -/
def closingEvents : List (Closing σ) → List (Outcome Unit) → List (Event κ)
  | c :: rest, o :: os => .began c.step :: settled c.label o ++ closingEvents rest os
  | _, _ => []

/-- What the first step to panic carries. -/
def firstPanic (os : List (Outcome Unit)) : Option Payload := os.findSome? Outcome.payload?

/-- A run as the end of its teardown leaves it. -/
def closed (s : Setting κ σ) (r : Run κ σ) : Run κ σ :=
  { r with
    resources := []
    temporaries := []
    lifecycle := .disposed
    world := (carryOut s r.closings r.world).2
    journal :=
      r.journal ++ (closingEvents r.closings (carryOut s r.closings r.world).1 : List (Event κ)) }

@[simp] lemma events_closed (s : Setting κ σ) (r : Run κ σ) :
    (r.closed s).events =
      r.events ++ closingEvents r.closings (carryOut s r.closings r.world).1 := by
  simp [events, closed]

/-! ### The end of a teardown carries out the steps -/

/-- Report how a step ended. -/
def settle (s : Setting κ σ) (step : String) (o : Outcome Unit) (r : Run κ σ) : Run κ σ :=
  { r with
    world := tell s step o r.world
    journal := r.journal ++ (settled step o : List (Event κ)) }

@[simp] lemma events_settle (s : Setting κ σ) (step : String) (o : Outcome Unit) (r : Run κ σ) :
    (r.settle s step o).events = r.events ++ settled step o := by
  simp [events, settle]

lemma conclude_eq (s : Setting κ σ) (step : String) (o : Outcome Unit) (u : Unwinding κ σ) :
    u.conclude s step o = ⟨u.run.settle s step o, u.panicked.or o.payload?⟩ := by
  unfold Unwinding.conclude settle tell settled
  cases stepWarning? step o with
  | none => simp [record]
  | some d => simp [record, report]

/-- Carry out a step in a teardown. -/
def Unwinding.perform (s : Setting κ σ) (u : Unwinding κ σ) (c : Closing σ) : Unwinding κ σ :=
  let (o, world) := c.run s u.run.world
  { u with run := { u.run with world }.record (.began c.step) }.conclude s c.label o

lemma endSession_eq (s : Setting κ σ) (u : Unwinding κ σ) :
    endSession s u = u.perform s .closeSession := rfl

lemma endOutput_eq (s : Setting κ σ) (u : Unwinding κ σ) : endOutput s u = u.perform s .flush := rfl

lemma releaseAll_eq (s : Setting κ σ) (u : Unwinding κ σ) :
    releaseAll s u = u.run.releases.foldl (Unwinding.perform s)
      { u with run := { u.run with resources := [] } } := by
  rw [releases, List.foldl_map]
  rfl

lemma deleteAll_eq (s : Setting κ σ) (u : Unwinding κ σ) :
    deleteAll s u = u.run.deletions.foldl (Unwinding.perform s)
      { u with run := { u.run with temporaries := [] } } := by
  rw [deletions, List.foldl_map]
  rfl

lemma firstPanic_cons (o : Outcome Unit) (os : List (Outcome Unit)) :
    firstPanic (o :: os) = o.payload?.or (firstPanic os) := by
  rw [firstPanic]
  rw [List.findSome?_cons]
  cases o.payload? <;> rfl

lemma push_append_list (j : Array (Event κ)) (e : Event κ) (l : List (Event κ)) :
    j.push e ++ l = j ++ (e :: l) := by
  apply Array.ext'
  simp

lemma append_list_append (j : Array (Event κ)) (l l' : List (Event κ)) :
    j ++ l ++ l' = j ++ (l ++ l') := by
  apply Array.ext'
  simp

/-- What steps make of a run: nothing but the world and the journal changes. -/
lemma foldl_perform (s : Setting κ σ) (cs : List (Closing σ)) (u : Unwinding κ σ) :
    cs.foldl (Unwinding.perform s) u =
      { run :=
          { u.run with
            world := (carryOut s cs u.run.world).2
            journal :=
              u.run.journal ++ (closingEvents cs (carryOut s cs u.run.world).1 : List (Event κ)) }
        panicked := u.panicked.or (firstPanic (carryOut s cs u.run.world).1) } := by
  induction cs generalizing u with
  | nil => simp [carryOut, closingEvents, firstPanic]
  | cons c cs ih =>
    rw [List.foldl_cons, ih]
    simp only [Unwinding.perform, conclude_eq, settle, record, carryOut, closingEvents,
      firstPanic_cons, push_append_list, append_list_append, List.cons_append, Option.or_assoc]

/-! Steps can be carried out in two goes. -/

lemma length_carryOut (s : Setting κ σ) (cs : List (Closing σ)) (w : σ) :
    (carryOut s cs w).1.length = cs.length := by
  induction cs generalizing w with
  | nil => rfl
  | cons c cs ih => simp only [carryOut, List.length_cons, ih]

lemma carryOut_append (s : Setting κ σ) (cs cs' : List (Closing σ)) (w : σ) :
    carryOut s (cs ++ cs') w =
      ((carryOut s cs w).1 ++ (carryOut s cs' (carryOut s cs w).2).1,
        (carryOut s cs' (carryOut s cs w).2).2) := by
  induction cs generalizing w with
  | nil => rfl
  | cons c cs ih => simp only [List.cons_append, carryOut, ih]

lemma closingEvents_append {cs : List (Closing σ)} {os : List (Outcome Unit)}
    (h : os.length = cs.length) (cs' : List (Closing σ)) (os' : List (Outcome Unit)) :
    (closingEvents (cs ++ cs') (os ++ os') : List (Event κ))
      = closingEvents cs os ++ closingEvents cs' os' := by
  induction cs generalizing os with
  | nil =>
    rw [List.length_eq_zero_iff.1 h]
    rfl
  | cons c cs ih =>
    obtain ⟨o, os, rfl⟩ := List.exists_cons_of_length_eq_add_one h
    simp only [List.cons_append, closingEvents, List.append_assoc,
      ih (Nat.succ.inj h)]

lemma firstPanic_append (os os' : List (Outcome Unit)) :
    firstPanic (os ++ os') = (firstPanic os).or (firstPanic os') := List.findSome?_append

/-- What the end of a teardown makes of a run, and the first panic of all. -/
theorem finish_eq (s : Setting κ σ) (u : Unwinding κ σ) :
    deleteAll s (endOutput s (endSession s (releaseAll s u))) =
      { run := { u.run.closed s with lifecycle := u.run.lifecycle }
        panicked := u.panicked.or (firstPanic (carryOut s u.run.closings u.run.world).1) } := by
  -- up to the deletions the steps are one list, and they leave the files alone
  have hout : endOutput s (endSession s (releaseAll s u)) =
      (u.run.releases ++ [Closing.closeSession, Closing.flush]).foldl (Unwinding.perform s)
        { u with run := { u.run with resources := [] } } := by
    rw [endOutput_eq, endSession_eq, releaseAll_eq, List.foldl_append]
    rfl
  rw [deleteAll_eq, hout, foldl_perform, foldl_perform]
  simp only [closed, closings, carryOut_append s (_ ++ _), firstPanic_append, Option.or_assoc,
    closingEvents_append (length_carryOut s _ _), append_list_append]
  rfl

end Run

/-! ### What readers find -/

/-- A reader that passes over the end of a step. -/
structure Event.Skips {α : Type} (f : Event κ → Option α) : Prop where
  concluded : ∀ step o, f (.concluded step o) = none
  reported : ∀ d, f (.reported d) = none

lemma filterMap_settled {α : Type} {f : Event κ → Option α} (hf : Event.Skips f) (step : String)
    (o : Outcome Unit) : (Run.settled step o).filterMap f = [] := by
  rw [Run.settled]
  rw [List.filterMap_cons_none (hf.concluded step o)]
  cases Run.stepWarning? step o with
  | none => rfl
  | some d => exact List.filterMap_cons_none (hf.reported d)

lemma filterMap_closingEvents {α : Type} {f : Event κ → Option α} (hf : Event.Skips f)
    {cs : List (Closing σ)} {os : List (Outcome Unit)} (h : os.length = cs.length) :
    (Run.closingEvents cs os).filterMap f = cs.filterMap fun c => f (.began c.step) := by
  induction cs generalizing os with
  | nil =>
    rw [List.length_eq_zero_iff.1 h]
    rfl
  | cons c cs ih =>
    obtain ⟨o, os, rfl⟩ := List.exists_cons_of_length_eq_add_one h
    rw [Run.closingEvents, List.cons_append, List.filterMap_cons, List.filterMap_append,
      filterMap_settled hf, List.nil_append, ih (Nat.succ.inj h), List.filterMap_cons]

/-- What a reader finds at the end of a teardown: the steps that were left, and nothing else. -/
lemma filterMap_closed {α : Type} {f : Event κ → Option α} (hf : Event.Skips f) (s : Setting κ σ)
    (r : Run κ σ) :
    (r.closed s).events.filterMap f =
      r.events.filterMap f ++ r.closings.filterMap fun c => f (.began c.step) := by
  rw [Run.events_closed, List.filterMap_append,
    filterMap_closingEvents hf (Run.length_carryOut s _ _)]

lemma filterMap_closed_eq {α : Type} {f : Event κ → Option α} (hf : Event.Skips f)
    (hc : ∀ c : Closing σ, f (.began c.step) = none) (s : Setting κ σ) (r : Run κ σ) :
    (r.closed s).events.filterMap f = r.events.filterMap f := by
  rw [filterMap_closed hf, List.filterMap_eq_nil_iff.2 fun c _ => hc c, List.append_nil]

lemma filterMap_settle {α : Type} {f : Event κ → Option α} (hf : Event.Skips f)
    (s : Setting κ σ) (step : String) (o : Outcome Unit) (r : Run κ σ) :
    (r.settle s step o).events.filterMap f = r.events.filterMap f := by
  rw [Run.events_settle, List.filterMap_append, filterMap_settled hf, List.append_nil]

/-! ### A whole teardown -/

namespace Run

/-- Whether the teardown of a run has begun. -/
def isTorn (r : Run κ σ) : Bool :=
  match r.lifecycle with
  | .created | .running => false
  | .shuttingDown | .disposed => true

/-- A run whose teardown begins. -/
def tornDown (r : Run κ σ) : Run κ σ := { r with lifecycle := .shuttingDown }

/-- A run whose next callback is being called. -/
def calling (r : Run κ σ) (code : κ) (rest : List κ) : Run κ σ :=
  { r with callbacks := rest }.record (.began (.callback code))

lemma events_calling (r : Run κ σ) (code : κ) (rest : List κ) :
    (r.calling code rest).events = r.events ++ [.began (.callback code)] :=
  events_record _ _

lemma isTorn_eq_false_iff {r : Run κ σ} :
    r.isTorn = false ↔ r.lifecycle = .created ∨ r.lifecycle = .running := by
  rw [isTorn]
  cases r.lifecycle <;> simp

lemma isTorn_eq_true_iff {r : Run κ σ} :
    r.isTorn = true ↔ r.lifecycle = .shuttingDown ∨ r.lifecycle = .disposed := by
  rw [isTorn]
  cases r.lifecycle <;> simp

lemma isDisposed_of_not_isTorn {r : Run κ σ} (h : r.isTorn = false) : r.isDisposed = false := by
  rw [isDisposed]
  rcases isTorn_eq_false_iff.1 h with h | h <;> rw [h] <;> rfl

section Teardown

variable (s : Setting κ σ) (call : Invoke κ σ) (fuel : Nat)

lemma drain_nil {u : Unwinding κ σ} (h : u.run.callbacks = []) : drain s call fuel u = some u := by
  rw [drain]
  rw [h]

lemma drain_zero_cons {u : Unwinding κ σ} {code : κ} {rest : List κ}
    (h : u.run.callbacks = code :: rest) : drain s call 0 u = none := by
  rw [drain]
  rw [h]

lemma drain_succ_cons {u : Unwinding κ σ} {code : κ} {rest : List κ}
    (h : u.run.callbacks = code :: rest) :
    drain s call (fuel + 1) u =
      (call code .none none .global (u.run.calling code rest)).bind fun (o, _, r) =>
        drain s call fuel
          ⟨r.settle s "shutdown callback" o.void, u.panicked.or o.void.payload?⟩ := by
  cases hc : call code .none none .global (u.run.calling code rest) with
  | none =>
    have hcall : call code .none none .global
        ({ u.run with callbacks := rest }.record (.began (.callback code))) = none := hc
    rw [drain]
    simp only [h, hcall, Option.bind_none]
  | some x =>
    have hcall : call code .none none .global
        ({ u.run with callbacks := rest }.record (.began (.callback code))) = some x := hc
    rw [drain]
    simp only [h, hcall, Option.bind_some, conclude_eq]

/-- To tear a run down again does nothing. -/
lemma teardown_of_isTorn {r : Run κ σ} (h : r.isTorn = true) :
    teardown s call fuel r = some (none, r) := by
  rw [teardown]
  rcases isTorn_eq_true_iff.1 h with h | h <;> rw [h]

/-- A teardown runs the callbacks, then carries out the steps that are left. -/
lemma teardown_of_not_isTorn {r : Run κ σ} (h : r.isTorn = false) :
    teardown s call fuel r = (drain s call fuel ⟨r.tornDown, none⟩).map fun u =>
      (u.panicked.or (firstPanic (carryOut s u.run.closings u.run.world).1), u.run.closed s) := by
  rw [teardown]
  rcases isTorn_eq_false_iff.1 h with h | h <;> simp only [h, finish_eq] <;> rfl

variable {s call fuel} {r r' : Run κ σ} {o : Outcome Unit}

lemma teardown_of_dispose (h : dispose s call fuel r = some (o, r')) :
    ∃ p, teardown s call fuel r = some (p, r') := by
  obtain ⟨⟨p, r''⟩, hp, heq⟩ := Option.map_eq_some_iff.1 h
  cases p with
  | none => cases heq; exact ⟨none, hp⟩
  | some p => cases heq; exact ⟨some p, hp⟩

lemma dispose_of_drop {panicking : Bool} (h : drop s call fuel panicking r = some (o, r')) :
    ∃ o', dispose s call fuel r = some (o', r') := by
  obtain ⟨⟨o', r''⟩, ho, heq⟩ := Option.map_eq_some_iff.1 h
  cases heq
  exact ⟨o', ho⟩

end Teardown

end Run

end ScriptRun
