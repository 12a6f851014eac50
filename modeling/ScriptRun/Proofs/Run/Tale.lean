import ScriptRun.Proofs.Run.Deeds

/-!
# What is done so far

An account is given of executions that come to an end. A tale is told of all others as well: it
lists the deeds up to where a bound is too low, so that a run that never ends is told of by the
tales under higher and higher bounds. The steps in which a teardown ends are deeds in a tale too:
whatever is released, closed, flushed or deleted gets to see the run as it is by then.

If every single step that a run makes is in a relation that belongs to what is asked for, states are
in it from one deed of a tale to the next (`Setting.Paces.follow`).
-/

namespace ScriptRun

variable {κ σ α β : Type} {s : Setting κ σ} {r r' : Run κ σ}

/-! ### Tales -/

/-- What is done on the way to something, which is not reached if a bound is too low. -/
structure Tale (κ σ α : Type) where
  deeds : List (Deed κ σ)
  result : Option α

namespace Tale

/-- Nothing is done. -/
def done (x : α) : Tale κ σ α := ⟨[], some x⟩

/-- First one deed, then others. -/
def cons (d : Deed κ σ) : Tale κ σ α → Tale κ σ α
  | ⟨ds, result⟩ => ⟨d :: ds, result⟩

/-- One thing after another, according to what the first one comes to. -/
def bind (f : α → Tale κ σ β) : Tale κ σ α → Tale κ σ β
  | ⟨ds, none⟩ => ⟨ds, none⟩
  | ⟨ds, some x⟩ =>
    let ⟨ds', result⟩ := f x
    ⟨ds ++ ds', result⟩

def map (f : α → β) : Tale κ σ α → Tale κ σ β
  | ⟨ds, result⟩ => ⟨ds, result.map f⟩

@[simp] lemma result_bind (t : Tale κ σ α) (f : α → Tale κ σ β) :
    (t.bind f).result = t.result.bind fun x => (f x).result := by
  obtain ⟨ds, result⟩ := t
  cases result <;> rfl

lemma deeds_bind (t : Tale κ σ α) (f : α → Tale κ σ β) :
    (t.bind f).deeds = t.deeds ++ t.result.elim [] fun x => (f x).deeds := by
  obtain ⟨ds, result⟩ := t
  cases result with
  | none => exact (List.append_nil ds).symm
  | some x => rfl

end Tale

/-- Calls code like `Invoke`, and tells what is done meanwhile. -/
abbrev Teller (κ σ : Type) :=
  κ → Input → Option (ScriptContext κ) → Variables → Run κ σ →
    Tale κ σ (Outcome Value × Variables × Run κ σ)

section Follow

variable (s : Setting κ σ) (T : Teller κ σ) (fuel : Nat)

/-- Run an errand and tell what its calls do, one after the other. -/
def Errand.follow : Errand κ σ α → Tale κ σ α
  | stuck => ⟨[], none⟩
  | done x => .done x
  | call code input context vars r next =>
    (T code input context vars r).bind fun y => (next y).follow

/-- A look at a run by something other than its code. -/
def Deed.glance (r : Run κ σ) : Deed κ σ := ⟨none, .global, r, none⟩

/-- The steps in which a teardown ends, each as a look at the run as it is by then. -/
def closingDeeds : List (Closing σ) → Run.Unwinding κ σ → List (Deed κ σ)
  | [], _ => []
  | c :: rest, u => .glance u.run :: closingDeeds rest (u.perform s c)

/-- Dispose of a run and tell what its callbacks do, and what comes then. -/
def Run.followDispose (r : Run κ σ) : Tale κ σ (Outcome Unit × Run κ σ) :=
  if r.isTorn then .done (.ok (), r)
  else
    ((Errand.drain s fuel ⟨r.tornDown, none⟩).follow T).bind fun u =>
      ⟨closingDeeds s u.run.closings u, some <|
        match u.panicked.or (firstPanic (carryOut s u.run.closings u.run.world).1) with
        | some p => (.panic p, u.run.closed s)
        | none => (.ok (), u.run.closed s)⟩

/-- Perform an operation and tell what is done meanwhile. -/
def Op.follow (op : Op κ σ) (vars : Variables) (r : Run κ σ) :
    Tale κ σ (op.Answer × Variables × Run κ σ) :=
  match op with
  | .dispose => (r.followDispose s T fuel).map fun (o, r) => (o, vars, r)
  | op => (Errand.perform s fuel op vars r).follow T

/-- Run guest code and tell what it does, and what the code does that it calls. -/
def Guest.follow (context : Option (ScriptContext κ)) :
    Guest κ σ → Variables → Run κ σ → Tale κ σ (Outcome Value × Variables × Run κ σ)
  | done o, vars, r => .done (o, vars, r)
  | look next, vars, r =>
    .cons ⟨context, vars, r, none⟩ (follow context (next (view context vars r)) vars r)
  | ask op next, vars, r =>
    .cons ⟨context, vars, r, some op⟩
      ((op.follow s T fuel vars r).bind fun (a, vars, r) => follow context (next a) vars r)

end Follow

/-- Call a label and tell what is done, with calls nested at most `depth` deep. -/
def Setting.follow (s : Setting κ σ) (depth : Nat) : Teller κ σ :=
  fun label input context vars r =>
    match depth with
    | 0 => ⟨[], none⟩
    | depth + 1 => (s.code label input).follow s (s.follow depth) depth context vars r

/-- Run guest code as a host does from outside, and tell what is done. -/
def Setting.followRun (s : Setting κ σ) (depth : Nat) (g : Guest κ σ) (r : Run κ σ) :
    Tale κ σ (Outcome Value × Run κ σ) :=
  (g.follow s (s.follow depth) depth none .global r).map fun (o, _, r) => (o, r)

/-! ### Nothing else is changed by telling -/

section Result

variable {T : Teller κ σ} {call : Invoke κ σ} {fuel : Nat}

/-- Calls come to the same with and without being told of. -/
def Teller.Tells (T : Teller κ σ) (call : Invoke κ σ) : Prop :=
  ∀ code input context vars r,
    (T code input context vars r).result = call code input context vars r

lemma Errand.result_follow (hT : T.Tells call) (e : Errand κ σ α) :
    (e.follow T).result = e.run call := by
  induction e with
  | stuck => rfl
  | done x => rfl
  | call code input context vars r next ih =>
    rw [follow, Tale.result_bind, hT, run_call]
    exact congrArg _ (funext ih)

lemma Errand.deeds_follow_bind (hT : T.Tells call) (e : Errand κ σ α) (k : α → Errand κ σ β) :
    ((e.bind k).follow T).deeds =
      (e.follow T).deeds ++ (e.run call).elim [] fun x => ((k x).follow T).deeds := by
  induction e with
  | stuck => rfl
  | done x => rfl
  | call code input context vars r next ih =>
    rw [bind, follow, follow, run_call, Tale.deeds_bind, Tale.deeds_bind, hT]
    cases call code input context vars r with
    | none => simp
    | some y => simp [ih]

lemma Errand.deeds_follow_map (hT : T.Tells call) (e : Errand κ σ α) (f : α → β) :
    ((e.map f).follow T).deeds = (e.follow T).deeds := by
  rw [map, deeds_follow_bind hT]
  cases e.run call with
  | none => exact List.append_nil _
  | some x => exact List.append_nil _

lemma Run.result_followDispose (hT : T.Tells call) (r : Run κ σ) :
    (r.followDispose s T fuel).result = r.dispose s call fuel := by
  rw [← Errand.run_dispose, Errand.dispose, followDispose]
  split
  case isTrue => rfl
  case isFalse =>
    rw [Tale.result_bind, Errand.result_follow hT, Errand.run_map, Option.map_eq_bind]
    rfl

lemma Op.result_follow (hT : T.Tells call) (op : Op κ σ) (vars : Variables) (r : Run κ σ) :
    (op.follow s T fuel vars r).result = op.perform s call fuel vars r := by
  cases op with
  | dispose => exact congrArg (Option.map _) (Run.result_followDispose hT r)
  | _ => exact (Errand.result_follow hT _).trans (Errand.run_perform _ vars)

lemma Guest.result_follow (hT : T.Tells call) (g : Guest κ σ) (context : Option (ScriptContext κ))
    (vars : Variables) (r : Run κ σ) :
    (g.follow s T fuel context vars r).result = g.exec s call fuel context vars r := by
  induction g generalizing vars r with
  | done o => rfl
  | look next ih => exact ih _ vars r
  | ask op next ih =>
    rw [follow, Tale.cons, Tale.result_bind, Op.result_follow hT, exec]
    cases op.perform s call fuel vars r with
    | none => rfl
    | some x => exact ih x.1 x.2.1 x.2.2

theorem Setting.tells_follow (s : Setting κ σ) (depth : Nat) :
    (s.follow depth).Tells (s.invoke depth) := by
  induction depth with
  | zero => exact fun _ _ _ _ _ => rfl
  | succ depth ih =>
    exact fun code input context vars r => Guest.result_follow ih (s.code code input) context vars r

lemma Setting.result_followRun (s : Setting κ σ) (depth : Nat) (g : Guest κ σ) (r : Run κ σ) :
    (s.followRun depth g r).result = s.run depth g r :=
  congrArg (Option.map _) (Guest.result_follow (s.tells_follow depth) g none .global r)

end Result

/-! ### What code asks for -/

/-- Whatever it is answered, the code asks for operations of some kind only. -/
def Guest.Asks (A : Op κ σ → Prop) : Guest κ σ → Prop
  | done _ => True
  | look next => ∀ v, (next v).Asks A
  | ask op next => A op ∧ ∀ a, (next a).Asks A

/-- What is asked for in a deed, if anything, is of some kind. -/
def Deed.Asks (A : Op κ σ → Prop) (d : Deed κ σ) : Prop := ∀ op ∈ d.op, A op

section Asks

variable {A : Op κ σ → Prop} {T : Teller κ σ} {fuel : Nat}

lemma Deed.asks_none {d : Deed κ σ} (h : d.op = none) : d.Asks A := by
  intro op hop
  rw [h] at hop
  cases hop

lemma Tale.forall_bind {t : Tale κ σ α} {f : α → Tale κ σ β} {D : Deed κ σ → Prop}
    (ht : ∀ d ∈ t.deeds, D d) (hf : ∀ x, ∀ d ∈ (f x).deeds, D d) :
    ∀ d ∈ (t.bind f).deeds, D d := by
  obtain ⟨ds, result⟩ := t
  cases result with
  | none => exact ht
  | some x => exact List.forall_mem_append.2 ⟨ht, hf x⟩

variable (hT : ∀ code input context vars r, ∀ d ∈ (T code input context vars r).deeds, d.Asks A)
include hT

lemma Errand.asks_follow (e : Errand κ σ α) : ∀ d ∈ (e.follow T).deeds, d.Asks A := by
  induction e with
  | stuck => exact List.forall_mem_nil _
  | done x => exact List.forall_mem_nil _
  | call code input context vars r next ih =>
    exact Tale.forall_bind (hT code input context vars r) ih

omit hT in
lemma asks_closingDeeds (cs : List (Closing σ)) (u : Run.Unwinding κ σ) :
    ∀ d ∈ closingDeeds s cs u, d.Asks A := by
  induction cs generalizing u with
  | nil => exact List.forall_mem_nil _
  | cons c cs ih => exact List.forall_mem_cons.2 ⟨Deed.asks_none rfl, ih _⟩

lemma Run.asks_followDispose (r : Run κ σ) :
    ∀ d ∈ (r.followDispose s T fuel).deeds, d.Asks A := by
  rw [followDispose]
  split
  case isTrue => exact List.forall_mem_nil _
  case isFalse =>
    exact Tale.forall_bind (Errand.asks_follow hT _) fun u => asks_closingDeeds u.run.closings u

lemma Op.asks_follow (op : Op κ σ) (vars : Variables) (r : Run κ σ) :
    ∀ d ∈ (op.follow s T fuel vars r).deeds, d.Asks A := by
  cases op with
  | dispose => exact Run.asks_followDispose hT r
  | _ => exact Errand.asks_follow hT _

lemma Guest.asks_follow {g : Guest κ σ} (hg : g.Asks A) (context : Option (ScriptContext κ))
    (vars : Variables) (r : Run κ σ) :
    ∀ d ∈ (g.follow s T fuel context vars r).deeds, d.Asks A := by
  induction g generalizing vars r with
  | done o => exact List.forall_mem_nil _
  | look next ih =>
    exact List.forall_mem_cons.2 ⟨Deed.asks_none rfl, ih _ (hg _) vars r⟩
  | ask op next ih =>
    refine List.forall_mem_cons.2 ⟨?_, ?_⟩
    · intro op' hop
      cases hop
      exact hg.1
    · exact Tale.forall_bind (Op.asks_follow hT op vars r) fun x => ih x.1 (hg.2 x.1) x.2.1 x.2.2

end Asks

/-- Nothing is asked for that no code asks for. -/
lemma Setting.asks_follow {A : Op κ σ → Prop} (hs : ∀ label input, (s.code label input).Asks A)
    (depth : Nat) (code : κ) (input : Input) (context : Option (ScriptContext κ))
    (vars : Variables) (r : Run κ σ) :
    ∀ d ∈ (s.follow depth code input context vars r).deeds, d.Asks A := by
  induction depth generalizing code input context vars r with
  | zero => exact List.forall_mem_nil _
  | succ depth ih => exact Guest.asks_follow ih (hs code input) context vars r

lemma Setting.asks_followRun {A : Op κ σ → Prop}
    (hs : ∀ label input, (s.code label input).Asks A) {g : Guest κ σ} (hg : g.Asks A)
    (depth : Nat) (r : Run κ σ) : ∀ d ∈ (s.followRun depth g r).deeds, d.Asks A :=
  Guest.asks_follow (Setting.asks_follow hs depth) hg none .global r

/-! ### From one deed to the next -/

/-- What an operation may make of a run by itself, from where it is asked for to the next deed, and
what may become of a run where nothing is asked for. -/
abbrev Effect (κ σ : Type) := Option (Op κ σ) → Run κ σ → Run κ σ → Prop

/-- From a state on in which something may be asked for, through those in which something is done,
to the last one if there is one: each is in the relation to the next that belongs to what is asked
for in it. -/
def Along (R : Effect κ σ) :
    Option (Op κ σ) → Run κ σ → List (Deed κ σ) → Option (Run κ σ) → Prop
  | _, _, [], none => True
  | o, r, [], some r' => R o r r'
  | o, r, d :: ds, last => R o r d.run ∧ Along R d.op d.run ds last

/-- An errand takes a run from one state to the next: to its first call, from what each call leaves
on to the next one, and to what comes of it in the end. -/
def Errand.Leads (R : Effect κ σ) (final : α → Run κ σ) :
    Errand κ σ α → Option (Op κ σ) → Run κ σ → Prop
  | stuck, _, _ => True
  | done x, o, r => R o r (final x)
  | call _ _ _ _ q next, o, r => R o r q ∧ ∀ y, (next y).Leads R final none y.2.2

/-- If the deeds of a tale are as they should be, states are in a relation from one deed to the
next. -/
def Tale.Paces (C : Deed κ σ → Prop) (R : Effect κ σ) (final : α → Run κ σ) (o : Option (Op κ σ))
    (r : Run κ σ) (t : Tale κ σ α) : Prop :=
  (∀ d ∈ t.deeds, C d) → Along R o r t.deeds (t.result.map final)

/-- So it is in the tale of every call. -/
def Teller.Paces (C : Deed κ σ → Prop) (R : Effect κ σ) (T : Teller κ σ) : Prop :=
  ∀ code input context vars r, (T code input context vars r).Paces C R (·.2.2) none r

/-- Every single step that a run makes is in a relation, if what is asked for is as it should be. -/
structure Setting.Paces (s : Setting κ σ) (C : Deed κ σ → Prop) (R : Effect κ σ) : Prop where
  perform {fuel : Nat} {op : Op κ σ} {context : Option (ScriptContext κ)} {vars : Variables}
    {r : Run κ σ} (hop : op ≠ .dispose) (hC : C ⟨context, vars, r, some op⟩) :
    (Errand.perform s fuel op vars r).Leads R (·.2.2) (some op) r
  dispose {r r' : Run κ σ} (h : R none r r') : R (some .dispose) r r'
  tearDown {r : Run κ σ} (hr : r.isTorn = false) : R none r r.tornDown
  drain (fuel : Nat) (u : Run.Unwinding κ σ) : (Errand.drain s fuel u).Leads R (·.run) none u.run
  closing (u : Run.Unwinding κ σ) :
    Along R none u.run (closingDeeds s u.run.closings u) (some (u.run.closed s))

section Paces

variable {C : Deed κ σ → Prop} {R : Effect κ σ} [∀ o, Trans (R o) (R none) (R o)]
  {T : Teller κ σ} {fuel : Nat} {final : α → Run κ σ} {final' : β → Run κ σ}
  {o : Option (Op κ σ)} {ds ds' : List (Deed κ σ)} {r₁ : Run κ σ} {last : Option (Run κ σ)}

namespace Along

lemma head (h : R o r r₁) (h' : Along R none r₁ ds last) : Along R o r ds last := by
  cases ds with
  | nil =>
    cases last with
    | none => trivial
    | some r' => exact Trans.trans (r := R o) (s := R none) h h'
  | cons d ds => exact ⟨Trans.trans (r := R o) (s := R none) h h'.1, h'.2⟩

lemma append (h : Along R o r ds (some r₁)) (h' : Along R none r₁ ds' last) :
    Along R o r (ds ++ ds') last := by
  induction ds generalizing o r with
  | nil => exact h'.head h
  | cons d ds ih => exact ⟨h.1, ih h.2⟩

omit [∀ o, Trans (R o) (R none) (R o)] in
lemma imp {o' : Option (Op κ σ)} (ho : ∀ r', R o r r' → R o' r r') (h : Along R o r ds last) :
    Along R o' r ds last := by
  cases ds with
  | nil =>
    cases last with
    | none => trivial
    | some r' => exact ho r' h
  | cons d ds => exact ⟨ho d.run h.1, h.2⟩

omit [∀ o, Trans (R o) (R none) (R o)] in
lemma drop (h : Along R o r ds last) {m : Nat} {d : Deed κ σ} (hm : ds[m]? = some d) :
    Along R d.op d.run (ds.drop (m + 1)) last := by
  induction ds generalizing o r m with
  | nil => cases hm
  | cons d' ds ih =>
    cases m with
    | zero =>
      cases hm
      exact h.2
    | succ m => exact ih h.2 hm

end Along

namespace Errand.Leads

variable {e : Errand κ σ α}

lemma head (h : R o r r₁) (he : e.Leads R final none r₁) : e.Leads R final o r := by
  cases e with
  | stuck => trivial
  | done x => exact Trans.trans (r := R o) (s := R none) h he
  | call _ _ _ _ q next => exact ⟨Trans.trans (r := R o) (s := R none) h he.1, he.2⟩

lemma bind {k : α → Errand κ σ β} (he : e.Leads R final o r)
    (hk : ∀ x, (k x).Leads R final' none (final x)) : (e.bind k).Leads R final' o r := by
  induction e generalizing o r with
  | stuck => trivial
  | done x => exact (hk x).head he
  | call code input context vars q next ih => exact ⟨he.1, fun y => ih y (he.2 y)⟩

lemma map {f : α → β} (he : e.Leads R final o r) (hf : ∀ x, R none (final x) (final' (f x))) :
    (e.map f).Leads R final' o r :=
  he.bind hf

omit [∀ o, Trans (R o) (R none) (R o)] in
lemma imp {o' : Option (Op κ σ)} (ho : ∀ r', R o r r' → R o' r r') (he : e.Leads R final o r) :
    e.Leads R final o' r := by
  cases e with
  | stuck => trivial
  | done x => exact ho (final x) he
  | call _ _ _ _ q next => exact ⟨ho q he.1, he.2⟩

omit [∀ o, Trans (R o) (R none) (R o)] in
lemma ofOption {x? : Option α} (h : ∀ x, x? = some x → R o r (final x)) :
    (Errand.ofOption x?).Leads R final o r := by
  cases x? with
  | none => trivial
  | some x => exact h x rfl

section Searches

variable [Std.Refl (R none)]

omit [∀ o, Trans (R o) (R none) (R o)] in
/-- To look for a type is to call the hook, or nothing. -/
lemma lookupType {name : String} (autoload : Bool)
    (hhook : R none r (r.record (.began (.autoload name)))) :
    (Errand.lookupType s name autoload r).Leads R (·.2) none r := by
  rw [Errand.lookupType]
  split
  · exact ⟨hhook, fun y => refl y.2.2⟩
  · exact refl r

variable (hhook : ∀ name, R none r (r.record (.began (.autoload name))))
include hhook

omit [∀ o, Trans (R o) (R none) (R o)] in
lemma resolveType (name : String) (caller : Option TypeDecl) (autoload : Bool) :
    (Errand.resolveType s name caller autoload r).Leads R (·.2) none r := by
  rw [Errand.resolveType]
  cases TypeMention.ofName name with
  | named name => exact lookupType autoload (hhook name)
  | _ => exact refl r

lemma needType (name : String) (caller : Option TypeDecl) (autoload : Bool) :
    (Errand.needType s name caller autoload r).Leads R (·.2) none r :=
  (resolveType hhook name caller autoload).map fun x => refl x.2

lemma ensureType (d : TypeDecl) : (Errand.ensureType s d r).Leads R (·.2) none r :=
  (lookupType d.autoload (hhook d.name)).map fun x => refl x.2

end Searches

/-- The callbacks of a teardown are called one after the other. -/
lemma drain [Std.Refl (R none)]
    (hcalling : ∀ (r : Run κ σ) code rest, R none r (r.calling code rest))
    (hsettle : ∀ (r : Run κ σ) o, R none r (r.settle s "shutdown callback" o)) (fuel : Nat)
    (u : Run.Unwinding κ σ) : (Errand.drain s fuel u).Leads R (·.run) none u.run := by
  induction fuel generalizing u with
  | zero =>
    rw [Errand.drain]
    cases u.run.callbacks with
    | nil => exact refl u.run
    | cons code rest => trivial
  | succ fuel ih =>
    rw [Errand.drain]
    cases u.run.callbacks with
    | nil => exact refl u.run
    | cons code rest => exact ⟨hcalling u.run code rest, fun y => (ih _).head (hsettle y.2.2 _)⟩

end Errand.Leads

namespace Tale.Paces

variable {t : Tale κ σ α}

lemma head (h : R o r r₁) (ht : t.Paces C R final none r₁) : t.Paces C R final o r :=
  fun hC => (ht hC).head h

omit [∀ o, Trans (R o) (R none) (R o)] in
lemma cons {d : Deed κ σ} (hd : R o r d.run) (ht : C d → t.Paces C R final d.op d.run) :
    (t.cons d).Paces C R final o r := by
  intro hC
  obtain ⟨hCd, hC⟩ := List.forall_mem_cons.1 hC
  exact ⟨hd, ht hCd hC⟩

lemma bind {f : α → Tale κ σ β} (ht : t.Paces C R final o r)
    (hf : ∀ x, (f x).Paces C R final' none (final x)) : (t.bind f).Paces C R final' o r := by
  obtain ⟨ds, result⟩ := t
  cases result with
  | none => exact ht
  | some x =>
    intro hC
    obtain ⟨hCt, hCf⟩ := List.forall_mem_append.1 hC
    exact (ht hCt).append (hf x hCf)

omit [∀ o, Trans (R o) (R none) (R o)] in
lemma map {f : α → β} (ht : t.Paces C R (final' ∘ f) o r) : (t.map f).Paces C R final' o r := by
  intro hC
  rw [Tale.map, Option.map_map]
  exact ht hC

end Tale.Paces

lemma Errand.Leads.follow {e : Errand κ σ α} (hT : T.Paces C R) (he : e.Leads R final o r) :
    (e.follow T).Paces C R final o r := by
  induction e generalizing o r with
  | stuck => exact fun _ => trivial
  | done x => exact fun _ => he
  | call code input context vars q next ih =>
    exact ((hT code input context vars q).bind fun y => ih y (he.2 y)).head he.1

namespace Setting.Paces

variable [Std.Refl (R none)]

lemma followDispose (hs : s.Paces C R) (hT : T.Paces C R) (r : Run κ σ) :
    (r.followDispose s T fuel).Paces C R (·.2) none r := by
  rw [Run.followDispose]
  split
  case isTrue => exact fun _ => refl r
  case isFalse ht =>
    have hdrain := (hs.drain fuel ⟨r.tornDown, none⟩).follow hT
    refine (hdrain.head (hs.tearDown (Bool.eq_false_iff.2 ht))).bind fun u _ => ?_
    have hclosing := hs.closing u
    dsimp only
    split <;> exact hclosing

lemma followOp (hs : s.Paces C R) (hT : T.Paces C R) {op : Op κ σ}
    {context : Option (ScriptContext κ)} {vars : Variables}
    (hC : C ⟨context, vars, r, some op⟩) :
    (op.follow s T fuel vars r).Paces C R (·.2.2) (some op) r := by
  cases op with
  | dispose =>
    refine Tale.Paces.map fun hdeeds => ?_
    exact (hs.followDispose hT r hdeeds).imp fun _ => hs.dispose
  | _ => exact (hs.perform (by rintro ⟨⟩) hC).follow hT

lemma followGuest (hs : s.Paces C R) (hT : T.Paces C R) (g : Guest κ σ)
    (context : Option (ScriptContext κ)) (vars : Variables) (r : Run κ σ) :
    (g.follow s T fuel context vars r).Paces C R (·.2.2) none r := by
  induction g generalizing vars r with
  | done o => exact fun _ => refl r
  | look next ih => exact .cons (refl r) fun _ => ih _ vars r
  | ask op next ih =>
    exact .cons (refl r) fun hC => (hs.followOp hT hC).bind fun x => ih x.1 x.2.1 x.2.2

/-- From one deed to the next, and to the end, states are in the relation, however deep code is
called and whether or not it comes to an end. -/
theorem follow (hs : s.Paces C R) (depth : Nat) : (s.follow depth).Paces C R := by
  -- on the depth: code is called one level further down
  induction depth with
  | zero => exact fun _ _ _ _ _ _ => trivial
  | succ depth ih =>
    exact fun code input context vars r => hs.followGuest ih (s.code code input) context vars r

lemma followRun (hs : s.Paces C R) (depth : Nat) (g : Guest κ σ) (r : Run κ σ) :
    (s.followRun depth g r).Paces C R (·.2) none r := by
  refine Tale.Paces.map ?_
  exact hs.followGuest (hs.follow depth) g none .global r

end Setting.Paces

end Paces

/-! ### What a host does with a run -/

/-- What is done in the course of a run, by the code that its host runs and when it gives the run
up, under bounds of its choice, and the state that this leaves. There is none if a bound is too low.
The host gets to see the run each time. -/
inductive Setting.Course (s : Setting κ σ) (args : Option (List String)) (w : σ) :
    List (Deed κ σ) → Option (Run κ σ) → Prop
  | start : Course s args w [] (some (s.start args w))
  | run {ds : List (Deed κ σ)} {r : Run κ σ} (h : Course s args w ds (some r)) (depth : Nat)
    (g : Guest κ σ) :
    Course s args w (ds ++ .glance r :: (s.followRun depth g r).deeds)
      ((s.followRun depth g r).result.map (·.2))
  | giveUp {ds : List (Deed κ σ)} {r : Run κ σ} (h : Course s args w ds (some r))
    (depth fuel : Nat) :
    Course s args w (ds ++ .glance r :: (r.followDispose s (s.follow depth) fuel).deeds)
      ((r.followDispose s (s.follow depth) fuel).result.map (·.2))

/-- The states in which something is done, and the last one if there is one. -/
def states (ds : List (Deed κ σ)) (last : Option (Run κ σ)) : List (Run κ σ) :=
  ds.map (·.run) ++ last.toList

lemma Setting.Course.along {args : Option (List String)} {w : σ} {ds : List (Deed κ σ)}
    {last : Option (Run κ σ)} {C : Deed κ σ → Prop} {R : Effect κ σ}
    [∀ o, Trans (R o) (R none) (R o)] [Std.Refl (R none)] (hs : s.Paces C R)
    (h : s.Course args w ds last) (hC : ∀ d ∈ ds, C d) :
    Along R none (s.start args w) ds last := by
  have glance {α : Type} {r : Run κ σ} {t : Tale κ σ (α × Run κ σ)}
      (ht : t.Paces C R (·.2) none r) : (t.cons (.glance r)).Paces C R (·.2) none r :=
    .cons (refl r) fun _ => ht
  induction h with
  | start => exact refl (s.start args w)
  | @run ds r h depth g ih =>
    obtain ⟨hCds, hCt⟩ := List.forall_mem_append.1 hC
    exact (ih hCds).append (glance (hs.followRun depth g r) hCt)
  | @giveUp ds r h depth fuel ih =>
    obtain ⟨hCds, hCt⟩ := List.forall_mem_append.1 hC
    exact (ih hCds).append (glance (hs.followDispose (hs.follow depth) r) hCt)

end ScriptRun
