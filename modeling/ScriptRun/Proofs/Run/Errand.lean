import ScriptRun.Proofs.Run.Autoload
import ScriptRun.Proofs.Run.Inclusion

/-!
# The calls of an operation

An operation is given a way to call code, and what it comes to shows neither how often it calls nor
in which order. An errand does: it is a tree of the calls that are made, one after the other, each
with what comes next according to its result. Every operation runs an errand (`run_perform`). So
what an operation does around its calls is said once, and for all ways to call.
-/

namespace ScriptRun

variable {κ σ α β : Type}

/-- A computation, by the calls that it makes. -/
inductive Errand (κ σ α : Type) where
  /-- A bound is too low. -/
  | stuck
  | done (x : α)
  | call (code : κ) (input : Input) (context : Option (ScriptContext κ)) (vars : Variables)
    (r : Run κ σ) (next : Outcome Value × Variables × Run κ σ → Errand κ σ α)

namespace Errand

/-- What becomes of an errand, given how code is called. -/
def run (call : Invoke κ σ) : Errand κ σ α → Option α
  | stuck => none
  | done x => some x
  | .call code input context vars r next =>
    (call code input context vars r).bind fun y => (next y).run call

/-- One errand, then another one according to its result. -/
def bind : Errand κ σ α → (α → Errand κ σ β) → Errand κ σ β
  | stuck, _ => stuck
  | done x, k => k x
  | .call code input context vars r next, k =>
    .call code input context vars r fun y => (next y).bind k

def map (f : α → β) (e : Errand κ σ α) : Errand κ σ β := e.bind fun x => .done (f x)

/-- A computation that calls nothing. -/
def ofOption : Option α → Errand κ σ α
  | none => stuck
  | some x => done x

section Run

variable (call : Invoke κ σ)

@[simp] lemma run_done (x : α) : (done x : Errand κ σ α).run call = some x := rfl

@[simp] lemma run_call (code : κ) (input : Input) (context : Option (ScriptContext κ))
    (vars : Variables) (r : Run κ σ) (next : Outcome Value × Variables × Run κ σ → Errand κ σ α) :
    (Errand.call code input context vars r next).run call =
      (call code input context vars r).bind fun y => (next y).run call := rfl

@[simp] lemma run_ofOption (x : Option α) : (ofOption x : Errand κ σ α).run call = x := by
  cases x <;> rfl

@[simp] lemma run_bind (e : Errand κ σ α) (k : α → Errand κ σ β) :
    (e.bind k).run call = (e.run call).bind fun x => (k x).run call := by
  induction e with
  | stuck => rfl
  | done x => rfl
  | call code input context vars r next ih =>
    simp only [bind, run_call, Option.bind_assoc, ih]

@[simp] lemma run_map (f : α → β) (e : Errand κ σ α) :
    (e.map f).run call = (e.run call).map f := by
  simp only [map, run_bind, run_done, Option.map_eq_bind]
  rfl

end Run

/-! ### The errands of the operations -/

section Operations

variable (s : Setting κ σ) (fuel : Nat)

def lookupType (name : String) (autoload : Bool) (r : Run κ σ) :
    Errand κ σ (Outcome (Option TypeDecl) × Run κ σ) :=
  match r.types.lookup? name, !autoload || r.isDisposed, s.autoload with
  | none, false, some hook =>
    .call hook (.name name) none .global (r.record (.began (.autoload name))) fun (o, _, r) =>
      .done (o.bind fun _ => .ok (r.types.lookup? name), r)
  | found, _, _ => .done (.ok found, r)

def resolveType (name : String) (caller : Option TypeDecl) (autoload : Bool) (r : Run κ σ) :
    Errand κ σ (Outcome (Option TypeDecl) × Run κ σ) :=
  match TypeMention.ofName name with
  | .self => .done (.ok caller, r)
  | .parent => .done (.ok (caller.bind (·.base)), r)
  | .static => .done (.error .lateStaticBinding, r)
  | .named name => lookupType s name autoload r

def needType (name : String) (caller : Option TypeDecl) (autoload : Bool) (r : Run κ σ) :
    Errand κ σ (Outcome TypeDecl × Run κ σ) :=
  (resolveType s name caller autoload r).map fun (o, r) =>
    (o.bind fun
      | some d => .ok d
      | none => .error (.typeNotFound name), r)

def ensureType (d : TypeDecl) (r : Run κ σ) : Errand κ σ (Outcome Unit × Run κ σ) :=
  (lookupType s d.name d.autoload r).map fun (o, r) =>
    (o.bind fun
      | some e => if e.tag = d.tag then .ok () else .error (.typeMismatch d.name)
      | none => .error (.typeNotFound d.name), r)

def includeScript (q : Request) (vars : Variables) (r : Run κ σ) :
    Errand κ σ (Outcome Value × Variables × Run κ σ) :=
  if r.isDisposed then .done (.ok .null, vars, r)
  else
    match Run.resolveScript s fuel q.path q.dir r with
    | none => .stuck
    | some (.error p, r) => .done (.panic p, vars, r)
    | some (.ok none, r) =>
      let (o, r) := r.includeRaw s q
      .done (o, vars, r)
    | some (.ok (some u), r) =>
      if q.once && r.included.has u then .done (.ok (.bool true), vars, r)
      else .call u.body .none (some ⟨u, q.this, q.selfType⟩) vars (r.entered u) .done

def includeGlobal (path : String) (once require : Bool) (r : Run κ σ) :
    Errand κ σ (Outcome Value × Run κ σ) :=
  (includeScript s fuel { Request.of path with once, require } .global r).map fun (o, _, r) =>
    (o, r)

def offerError (e : RunError) (r : Run κ σ) : Errand κ σ (Outcome Bool × Run κ σ) :=
  match r.handler with
  | none => .done (.ok false, r)
  | some handler =>
    .call handler (.caught e) none .global ({ r with handler := none }.record (.handled e)) fun
      | (.panic p, _, r) => .done (.panic p, r)
      | (o, _, r) =>
        .done (o.map fun _ => true, { r with handler := r.handler.or (some handler) })

def runEntry (path : String) (r : Run κ σ) : Errand κ σ (Outcome Value × Run κ σ) :=
  (includeGlobal s fuel path true true r).bind fun
    | (.error e, r) =>
      (offerError e r).map fun (o, r) =>
        (o.bind fun taken => if taken then .ok .null else .error e, r)
    | (o, r) => .done (o, r)

def drain : Nat → Run.Unwinding κ σ → Errand κ σ (Run.Unwinding κ σ)
  | fuel, u =>
    match u.run.callbacks with
    | [] => .done u
    | code :: rest =>
      match fuel with
      | 0 => .stuck
      | fuel + 1 =>
        .call code .none none .global (u.run.calling code rest) fun (o, _, r) =>
          drain fuel ⟨r.settle s "shutdown callback" o.void, u.panicked.or o.void.payload?⟩

def dispose (r : Run κ σ) : Errand κ σ (Outcome Unit × Run κ σ) :=
  if r.isTorn then .done (.ok (), r)
  else
    (drain s fuel ⟨r.tornDown, none⟩).map fun u =>
      match u.panicked.or (Run.firstPanic (Run.carryOut s u.run.closings u.run.world).1) with
      | some p => (.panic p, u.run.closed s)
      | none => (.ok (), u.run.closed s)

/-- What an operation does, by its calls. Most operations call nothing. -/
def perform (op : Op κ σ) (vars : Variables) (r : Run κ σ) :
    Errand κ σ (op.Answer × Variables × Run κ σ) :=
  match op with
  | .call code input => .call code input none .global r fun (o, _, r) => .done (o, vars, r)
  | .resolveType name caller autoload =>
    (resolveType s name caller autoload r).map fun (o, r) => (o, vars, r)
  | .needType name caller autoload =>
    (needType s name caller autoload r).map fun (o, r) => (o, vars, r)
  | .ensureType d => (ensureType s d r).map fun (o, r) => (o, vars, r)
  | .includeShared q => includeScript s fuel q vars r
  | .includeLending q bindings =>
    (includeScript s fuel q (.lent bindings) r).map fun (o, lent, r) =>
      ((o, lent.bindings), vars, r)
  | .includeGlobal path once require =>
    (includeGlobal s fuel path once require r).map fun (o, r) => (o, vars, r)
  | .runEntry path => (runEntry s fuel path r).map fun (o, r) => (o, vars, r)
  | .offerError e => (offerError e r).map fun (o, r) => (o, vars, r)
  | .dispose => (dispose s fuel r).map fun (o, r) => (o, vars, r)
  | op => .ofOption (op.perform s (fun _ _ _ _ _ => none) fuel vars r)

end Operations

/-! ### Operations run their errands -/

section Operations

variable {s : Setting κ σ} {fuel : Nat} {call : Invoke κ σ} {r : Run κ σ}

@[simp] lemma run_lookupType (name : String) (autoload : Bool) :
    (lookupType s name autoload r).run call = Run.lookupType s call name autoload r := by
  by_cases hasks : ∃ hook, Asks s name autoload r hook
  · obtain ⟨hook, hasks⟩ := hasks
    rw [lookupType_of_asks hasks]
    obtain ⟨hunbound, rfl, hinstalled, hlive⟩ := hasks
    simp only [lookupType, hunbound, hlive, hinstalled]
    exact Option.map_eq_bind.symm
  · rw [lookupType_of_not_asks (not_exists.1 hasks), lookupType]
    split
    case h_1 hook hunbound hlive hinstalled =>
      obtain ⟨hrequested, hlive⟩ := Bool.or_eq_false_iff.1 hlive
      exact absurd ⟨hook, hunbound, by simpa using hrequested, hinstalled, hlive⟩ hasks
    case h_2 => rfl

@[simp] lemma run_resolveType (name : String) (caller : Option TypeDecl) (autoload : Bool) :
    (resolveType s name caller autoload r).run call =
      Run.resolveType s call name caller autoload r := by
  rw [resolveType, Run.resolveType]
  cases TypeMention.ofName name with
  | named name => exact run_lookupType name autoload
  | _ => rfl

@[simp] lemma run_needType (name : String) (caller : Option TypeDecl) (autoload : Bool) :
    (needType s name caller autoload r).run call = Run.needType s call name caller autoload r := by
  rw [needType, run_map, run_resolveType]
  rfl

@[simp] lemma run_ensureType (d : TypeDecl) :
    (ensureType s d r).run call = Run.ensureType s call d r := by
  rw [ensureType, run_map, run_lookupType]
  exact ensureType_eq.symm

@[simp] lemma run_includeScript (q : Request) (vars : Variables) :
    (includeScript s fuel q vars r).run call = Run.includeScript s call fuel q vars r := by
  rw [includeScript, Run.includeScript]
  split
  case isTrue => rfl
  case isFalse =>
    rcases Run.resolveScript s fuel q.path q.dir r with _ | ⟨_ | _ | u, r₁⟩
    · rfl
    · rfl
    · rfl
    · dsimp only
      split
      case isTrue => rfl
      case isFalse => exact Option.bind_fun_some _

@[simp] lemma run_includeGlobal (path : String) (once require : Bool) :
    (includeGlobal s fuel path once require r).run call =
      Run.includeGlobal s call fuel path once require r := by
  rw [includeGlobal, run_map, run_includeScript]
  rfl

@[simp] lemma run_offerError (e : RunError) :
    (offerError e r).run call = Run.offerError call e r := by
  rw [offerError, Run.offerError]
  cases r.handler with
  | none => rfl
  | some handler =>
    dsimp only
    rw [run_call]
    cases call handler (.caught e) none .global
        ({ r with handler := none }.record (.handled e)) with
    | none => rfl
    | some y =>
      obtain ⟨o, vars, r'⟩ := y
      cases o <;> rfl

@[simp] lemma run_runEntry (path : String) :
    (runEntry s fuel path r).run call = Run.runEntry s call fuel path r := by
  rw [runEntry, Run.runEntry, run_bind, run_includeGlobal]
  cases Run.includeGlobal s call fuel path true true r with
  | none => rfl
  | some y =>
    obtain ⟨o, r'⟩ := y
    cases o with
    | error e => simp
    | _ => rfl

@[simp] lemma run_drain (u : Run.Unwinding κ σ) :
    (drain s fuel u).run call = Run.drain s call fuel u := by
  induction fuel generalizing u with
  | zero =>
    rw [drain]
    cases hcb : u.run.callbacks with
    | nil => rw [Run.drain_nil s call 0 hcb, run_done]
    | cons code rest =>
      rw [Run.drain_zero_cons s call hcb]
      rfl
  | succ fuel ih =>
    rw [drain]
    cases hcb : u.run.callbacks with
    | nil => rw [Run.drain_nil s call _ hcb, run_done]
    | cons code rest =>
      rw [Run.drain_succ_cons s call fuel hcb]
      dsimp only
      simp only [run_call, ih]

@[simp] lemma run_dispose : (dispose s fuel r).run call = Run.dispose s call fuel r := by
  rw [dispose, Run.dispose]
  cases ht : r.isTorn with
  | true =>
    rw [Run.teardown_of_isTorn s call fuel ht]
    rfl
  | false =>
    rw [Run.teardown_of_not_isTorn s call fuel ht, Option.map_map]
    simp only [Bool.false_eq_true, if_false, run_map, run_drain]
    rfl

/-- Operations use what they are given to call code with by making the calls of their errands. -/
theorem run_perform (op : Op κ σ) (vars : Variables) :
    (perform s fuel op vars r).run call = op.perform s call fuel vars r := by
  cases op with
  | call code input => exact Option.map_eq_bind.symm
  | includeShared q => exact run_includeScript q vars
  | resolveType | needType | ensureType | includeLending | includeGlobal | runEntry | offerError
  | dispose => simp [perform, Op.perform]
  | assign f => cases vars <;> rfl
  | resolveScript path dir =>
    exact run_ofOption call ((Run.resolveScript s fuel path dir r).map fun x => (x.1, vars, x.2))
  | _ => rfl

end Operations

end Errand

/-! ### The errand of an inclusion -/

section Inclusion

variable {s : Setting κ σ} {r : Run κ σ}

lemma globals_includeRaw (q : Request) (r : Run κ σ) :
    (r.includeRaw s q).2.globals = r.globals := by
  have hread : (r.readRaw s (s.resolver.rawPath q.path q.dir)).2.globals = r.globals := rfl
  rw [Run.includeRaw]
  generalize r.readRaw s (s.resolver.rawPath q.path q.dir) = x at hread ⊢
  obtain ⟨o, r₁⟩ := x
  cases o with
  | ok data => exact hread
  | panic p => exact hread
  | error e =>
    dsimp only
    split <;> exact hread

/-- An inclusion calls no code and leaves the global variables alone, or it calls the code of the
script that its path leads to and nothing else. -/
lemma Errand.includeScript_cases (s : Setting κ σ) (fuel : Nat) (q : Request) (vars : Variables)
    (r : Run κ σ) :
    includeScript s fuel q vars r = .stuck ∨
      (∃ o r', r'.globals = r.globals ∧ includeScript s fuel q vars r = .done (o, vars, r')) ∨
      ∃ u r₁, r.isDisposed = false ∧
        Run.resolveScript s fuel q.path q.dir r = some (.ok (some u), r₁) ∧
        (q.once = false ∨ r.included.has u = false) ∧
        includeScript s fuel q vars r =
          .call u.body .none (some ⟨u, q.this, q.selfType⟩) vars (r₁.entered u) .done := by
  rw [includeScript]
  split
  case isTrue => exact .inr (.inl ⟨_, r, rfl, rfl⟩)
  case isFalse hd =>
    cases hres : Run.resolveScript s fuel q.path q.dir r with
    | none => exact .inl rfl
    | some x =>
      obtain ⟨found, r₁⟩ := x
      obtain ⟨w, rfl⟩ := resolveScript_world hres
      rcases found with p | _ | u
      · exact .inr (.inl ⟨_, { r with world := w }, rfl, rfl⟩)
      · exact .inr (.inl ⟨_, (Run.includeRaw s q { r with world := w }).2,
          globals_includeRaw q _, rfl⟩)
      · dsimp only
        split
        case isTrue => exact .inr (.inl ⟨_, { r with world := w }, rfl, rfl⟩)
        case isFalse hskip =>
          rw [Bool.and_eq_true, not_and_or, Bool.not_eq_true, Bool.not_eq_true] at hskip
          exact .inr (.inr ⟨u, _, Bool.eq_false_iff.2 hd, rfl, hskip, rfl⟩)

end Inclusion

end ScriptRun
