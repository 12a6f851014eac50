import ScriptRun.Proofs.Run.Errand

/-!
# What is done during an execution

The account of an execution lists, in order of time, what is done during it: where the code itself
and all code that it calls in turn, however deep, looks at the run or asks for something. Accounts
are kept by an execution that does the same as the plain one (`tells_invoke`).

In an account there is one store of global variables. Every deed finds it as the deeds before have
left it, whoever did them, and so does what comes after the execution. Scripts that are executed on
lent variables come to execute others on the global ones only by asking for that.
-/

namespace ScriptRun

variable {κ σ : Type} {s : Setting κ σ} {r r' : Run κ σ}

/-! ### Deeds -/

/-- Something that code does: it looks, or it asks for an operation. -/
structure Deed (κ σ : Type) where
  context : Option (ScriptContext κ)
  vars : Variables
  run : Run κ σ
  /-- What is asked for, if anything is. -/
  op : Option (Op κ σ)

namespace Deed

/-- What becomes of the global variables by the deed itself. What it leads to are further deeds. -/
def write (d : Deed κ σ) : Bindings → Bindings :=
  match d.op, d.vars with
  | some (.assign f), .global => f
  | some (.assignGlobals f), _ => f
  | _, _ => id

/-- Code goes for the global variables, and not as a script that works on what it was given. Code
that is no script has nothing but the global ones. -/
def reachesOut (d : Deed κ σ) : Bool :=
  match d.op with
  | some (.includeGlobal _ _ _) | some (.runEntry _) | some (.assignGlobals _) => true
  | some (.assign _) | some (.includeShared _) => d.context.isNone
  | _ => false

/-- A script works on the global variables. -/
def inGlobalScope (d : Deed κ σ) : Bool := d.context.isSome && d.vars.isGlobal

end Deed

/-- What deeds in this order make of the global variables. -/
def written (ds : List (Deed κ σ)) (g : Bindings) : Bindings := ds.foldl (fun g d => d.write g) g

/-- Every deed finds the global variables as those before it have left them, and so does the end. -/
def Timely : Bindings → List (Deed κ σ) → Bindings → Prop
  | g, [], g' => g' = g
  | g, d :: ds, g' => d.run.globals = g ∧ Timely (d.write g) ds g'

/-- Unless code reaches out, no script works on the global variables. -/
def Confined (ds : List (Deed κ σ)) : Prop :=
  (∀ d ∈ ds, d.reachesOut = false) → ∀ d ∈ ds, d.inGlobalScope = false

section Deeds

variable {g g₁ g' : Bindings} {d : Deed κ σ} {ds ds' : List (Deed κ σ)}

lemma Timely.append (h : Timely g ds g₁) (h' : Timely g₁ ds' g') : Timely g (ds ++ ds') g' := by
  induction ds generalizing g with
  | nil =>
    obtain rfl : g₁ = g := h
    exact h'
  | cons d ds ih => exact ⟨h.1, ih h.2⟩

lemma Timely.eq_written (h : Timely g ds g') : g' = written ds g := by
  induction ds generalizing g with
  | nil => exact h
  | cons d ds ih => exact ih h.2

lemma Timely.finds (h : Timely g (ds ++ d :: ds') g') : d.run.globals = written ds g := by
  induction ds generalizing g with
  | nil => exact h.1
  | cons d₀ ds ih => exact ih h.2

lemma Confined.nil : Confined ([] : List (Deed κ σ)) := by
  intro _ d hd
  cases hd

lemma Confined.cons (hd : d.inGlobalScope = false) (h : d.reachesOut = false → Confined ds) :
    Confined (d :: ds) := by
  intro hreach d' hd'
  rcases List.mem_cons.1 hd' with rfl | hd'
  · exact hd
  · exact h (hreach d List.mem_cons_self) (fun d hd => hreach d (List.mem_cons_of_mem _ hd)) d' hd'

lemma Confined.append (h : Confined ds) (h' : Confined ds') : Confined (ds ++ ds') := by
  intro hreach d hd
  rcases List.mem_append.1 hd with hd | hd
  · exact h (fun d hd => hreach d (List.mem_append_left _ hd)) d hd
  · exact h' (fun d hd => hreach d (List.mem_append_right _ hd)) d hd

/-- It is the scope of a script, or an operation that asks for them, by which the global variables
are written. -/
lemma Deed.write_eq_id (hreach : d.reachesOut = false) (hscope : d.inGlobalScope = false) :
    d.write = id := by
  obtain ⟨context, vars, r, op⟩ := d
  cases op with
  | none => rfl
  | some op =>
    cases op with
    | assignGlobals f => cases hreach
    | assign f =>
      cases vars with
      | lent l => rfl
      | global =>
        cases context with
        | none => cases hreach
        | some context => cases hscope
    | _ => rfl

lemma Confined.written_eq (h : Confined ds) (hreach : ∀ d ∈ ds, d.reachesOut = false) :
    written ds g = g := by
  have hid : ∀ d ∈ ds, d.write = id := fun d hd =>
    Deed.write_eq_id (hreach d hd) (h hreach d hd)
  clear h hreach
  induction ds with
  | nil => rfl
  | cons d ds ih =>
    rw [written, List.foldl_cons, hid d List.mem_cons_self]
    exact ih fun d hd => hid d (List.mem_cons_of_mem _ hd)

end Deeds

/-! ### Accounts -/

/-- Calls code like `Invoke`, and tells what is done meanwhile. -/
abbrev Account (κ σ : Type) :=
  κ → Input → Option (ScriptContext κ) → Variables → Run κ σ →
    Option (List (Deed κ σ) × Outcome Value × Variables × Run κ σ)

/-- Run an errand and tell what its calls do, one after the other. -/
def Errand.tell {α : Type} (T : Account κ σ) : Errand κ σ α → Option (List (Deed κ σ) × α)
  | stuck => none
  | done x => some ([], x)
  | call code input context vars r next =>
    (T code input context vars r).bind fun (ds, y) =>
      ((next y).tell T).map fun (ds', x) => (ds ++ ds', x)

/-- Run guest code and tell what it does, and what the code does that it calls. -/
def Guest.tell (s : Setting κ σ) (T : Account κ σ) (fuel : Nat)
    (context : Option (ScriptContext κ)) : Guest κ σ → Variables → Run κ σ →
      Option (List (Deed κ σ) × Outcome Value × Variables × Run κ σ)
  | done o, vars, r => some ([], o, vars, r)
  | look next, vars, r =>
    (tell s T fuel context (next (view context vars r)) vars r).map fun (ds, x) =>
      (⟨context, vars, r, none⟩ :: ds, x)
  | ask op next, vars, r =>
    ((Errand.perform s fuel op vars r).tell T).bind fun (ds, a, vars', r') =>
      (tell s T fuel context (next a) vars' r').map fun (ds', x) =>
        (⟨context, vars, r, some op⟩ :: (ds ++ ds'), x)

/-- Call a label and tell what is done, with calls nested at most `depth` deep. -/
def Setting.account (s : Setting κ σ) (depth : Nat) : Account κ σ :=
  fun label input context vars r =>
    match depth with
    | 0 => none
    | depth + 1 => (s.code label input).tell s (s.account depth) depth context vars r

/-! ### Nothing else is changed by telling -/

section Tells

variable {T : Account κ σ} {call : Invoke κ σ} {fuel : Nat}

/-- Calls come to the same with and without being told of. -/
def Account.Tells (T : Account κ σ) (call : Invoke κ σ) : Prop :=
  ∀ code input context vars r,
    (T code input context vars r).map (·.2) = call code input context vars r

lemma Errand.map_tell {α : Type} (hT : T.Tells call) (e : Errand κ σ α) :
    (e.tell T).map (·.2) = e.run call := by
  induction e with
  | stuck => rfl
  | done x => rfl
  | call code input context vars r next ih =>
    rw [tell, run, ← hT, Option.map_bind, Option.bind_map]
    congr 1
    funext y
    rw [Function.comp_apply, Function.comp_apply, Option.map_map, ← ih]
    rfl

lemma Guest.map_tell (hT : T.Tells call) (g : Guest κ σ) (context : Option (ScriptContext κ))
    (vars : Variables) (r : Run κ σ) :
    (g.tell s T fuel context vars r).map (·.2) = g.exec s call fuel context vars r := by
  induction g generalizing vars r with
  | done o => rfl
  | look next ih =>
    rw [tell, exec, Option.map_map, ← ih]
    rfl
  | ask op next ih =>
    rw [tell, exec, ← Errand.run_perform, ← Errand.map_tell hT]
    cases (Errand.perform s fuel op vars r).tell T with
    | none => rfl
    | some y =>
      dsimp only [Option.map_some, Option.bind_some]
      rw [Option.map_map, ← ih]
      rfl

theorem tells_invoke (s : Setting κ σ) (depth : Nat) : (s.account depth).Tells (s.invoke depth) := by
  induction depth with
  | zero => exact fun _ _ _ _ _ => rfl
  | succ depth ih =>
    exact fun code input context vars r => Guest.map_tell ih (s.code code input) context vars r

end Tells

/-! ### What leaves the global variables alone -/

namespace Run

@[simp] lemma globals_declareFunction (f : FunctionDecl κ) (r : Run κ σ) :
    (r.declareFunction f).2.globals = r.globals := by
  obtain ⟨functions, h⟩ := r.declareFunction_frame f
  rw [h]

@[simp] lemma globals_declareType (d : TypeDecl) (r : Run κ σ) :
    (r.declareType d).2.globals = r.globals := by
  obtain ⟨types, h⟩ := r.declareType_frame d
  rw [h]

@[simp] lemma globals_declareAlias (d : TypeDecl) (further : String) (r : Run κ σ) :
    (r.declareAlias d further).2.globals = r.globals := by
  obtain ⟨types, h⟩ := r.declareAlias_frame d further
  rw [h]

@[simp] lemma globals_declareConstant (c : Constant) (r : Run κ σ) :
    (r.declareConstant s c).2.globals = r.globals := by
  obtain ⟨constants, h | ⟨d, h⟩⟩ := r.declareConstant_frame s c
  · rw [h]
  · rw [h]
    rfl

@[simp] lemma globals_markIncluded (u : ScriptUnit κ) (r : Run κ σ) :
    (Run.markIncluded u r).globals = r.globals := by
  obtain ⟨included, h⟩ := Run.mark_frame u r
  rw [Run.markIncluded, h]
  split <;> rfl

@[simp] lemma globals_onShutdown (code : κ) (r : Run κ σ) :
    (Run.onShutdown code r).globals = r.globals := by
  rw [Run.onShutdown]
  split <;> rfl

@[simp] lemma globals_keep (resource : Resource σ) (r : Run κ σ) :
    (r.keep resource).2.globals = r.globals := by
  rw [Run.keep]
  split <;> rfl

@[simp] lemma globals_handBack (id : Nat) (r : Run κ σ) :
    (r.handBack id).2.globals = r.globals := by
  rw [Run.handBack]
  split <;> rfl

@[simp] lemma globals_track (path : String) (r : Run κ σ) :
    (r.track path).2.globals = r.globals := by
  rw [Run.track]
  split <;> rfl

@[simp] lemma globals_untrack (path : String) (r : Run κ σ) :
    (r.untrack path).2.globals = r.globals := by
  rw [Run.untrack]
  split <;> rfl

lemma globals_entered (u : ScriptUnit κ) (hd : r.isDisposed = false) :
    (r.entered u).globals = r.globals := by
  obtain ⟨lifecycle, h⟩ := Run.begin_frame u hd
  rw [Run.entered, h]
  rfl

end Run

/-! ### Errands in one line of time -/

/-- Calls are made on the global variables as they have been left, the first one on given ones. What
comes of the errand fits with how it leaves them. Given a condition, scripts are called on lent
variables. -/
def Errand.Keeps {α : Type} (lone : Prop) (post : Bindings → α → Prop) :
    Errand κ σ α → Bindings → Prop
  | stuck, _ => True
  | done x, g => post g x
  | call _ _ context vars r next, g =>
    r.globals = g ∧ (lone → context.isSome = true → vars.isGlobal = false) ∧
      ∀ y, y.2.1.isGlobal = vars.isGlobal → (next y).Keeps lone post y.2.2.globals

namespace Errand

variable {α β : Type} {lone : Prop} {post : Bindings → α → Prop} {post' : Bindings → β → Prop}
  {g : Bindings} {e : Errand κ σ α} {vars : Variables} {fuel : Nat}

lemma Keeps.bind {k : α → Errand κ σ β} (h : e.Keeps lone post g)
    (hk : ∀ g x, post g x → (k x).Keeps lone post' g) : (e.bind k).Keeps lone post' g := by
  induction e generalizing g with
  | stuck => trivial
  | done x => exact hk g x h
  | call code input context vars r next ih =>
    obtain ⟨hg, hscript, hnext⟩ := h
    exact ⟨hg, hscript, fun y hy => ih y (hnext y hy)⟩

lemma Keeps.map {f : α → β} (h : e.Keeps lone post g) (hf : ∀ g x, post g x → post' g (f x)) :
    (e.map f).Keeps lone post' g :=
  h.bind hf

/-- Code that is no script is called, and it is called on the global variables. -/
lemma Keeps.aside {code : κ} {input : Input} {r : Run κ σ}
    {next : Outcome Value × Variables × Run κ σ → Errand κ σ α}
    (hnext : ∀ y, (next y).Keeps lone post y.2.2.globals) :
    (Errand.call code input none .global r next).Keeps lone post r.globals :=
  ⟨rfl, fun _ h => absurd h Bool.false_ne_true, fun y _ => hnext y⟩

lemma keeps_ofOption {o : Option α} (h : ∀ x, o = some x → post g x) :
    (ofOption o : Errand κ σ α).Keeps lone post g := by
  cases o with
  | none => trivial
  | some x => exact h x rfl

/-- The global variables are left so. -/
abbrev Leaves (g : Bindings) (x : α × Run κ σ) : Prop := x.2.globals = g

/-- The global variables are left so, and code keeps its variables. -/
abbrev LeavesOn (vars : Variables) (g : Bindings) (x : α × Variables × Run κ σ) : Prop :=
  x.2.1.isGlobal = vars.isGlobal ∧ x.2.2.globals = g

lemma keeps_lookupType (name : String) (autoload : Bool) (r : Run κ σ) :
    (lookupType s name autoload r).Keeps lone Leaves r.globals := by
  rw [lookupType]
  split
  · exact .aside fun y => rfl
  · exact rfl

lemma keeps_resolveType (name : String) (caller : Option TypeDecl) (autoload : Bool)
    (r : Run κ σ) : (resolveType s name caller autoload r).Keeps lone Leaves r.globals := by
  rw [resolveType]
  cases TypeMention.ofName name with
  | named name => exact keeps_lookupType name autoload r
  | _ => exact rfl

lemma keeps_needType (name : String) (caller : Option TypeDecl) (autoload : Bool) (r : Run κ σ) :
    (needType s name caller autoload r).Keeps lone Leaves r.globals :=
  (keeps_resolveType name caller autoload r).map fun _ _ hx => hx

lemma keeps_ensureType (d : TypeDecl) (r : Run κ σ) :
    (ensureType s d r).Keeps lone Leaves r.globals :=
  (keeps_lookupType d.name d.autoload r).map fun _ _ hx => hx

lemma keeps_includeScript (q : Request) (r : Run κ σ) (hlone : lone → vars.isGlobal = false) :
    (includeScript s fuel q vars r).Keeps lone (LeavesOn vars) r.globals := by
  rcases includeScript_cases s fuel q vars r with
    herrand | ⟨o, r', hglobals, herrand⟩ | ⟨u, r₁, hd, hres, -, herrand⟩
  · rw [herrand]
    trivial
  · rw [herrand]
    exact ⟨rfl, hglobals⟩
  · rw [herrand]
    obtain ⟨w, rfl⟩ := resolveScript_world hres
    exact ⟨Run.globals_entered u hd, fun h _ => hlone h, fun y hy => ⟨hy, rfl⟩⟩

lemma keeps_includeGlobal (path : String) (once require : Bool) (r : Run κ σ) (hlone : ¬lone) :
    (includeGlobal s fuel path once require r).Keeps lone Leaves r.globals :=
  (keeps_includeScript _ r fun h => absurd h hlone).map fun _ _ hx => hx.2

lemma keeps_offerError (e : RunError) (r : Run κ σ) :
    (offerError e r).Keeps lone Leaves r.globals := by
  rw [offerError]
  cases r.handler with
  | none => exact rfl
  | some handler =>
    refine Keeps.aside (r := { r with handler := none }.record (.handled e)) ?_
    rintro ⟨o, vars, r'⟩
    cases o <;> exact rfl

lemma keeps_runEntry (path : String) (r : Run κ σ) (hlone : ¬lone) :
    (runEntry s fuel path r).Keeps lone Leaves r.globals := by
  refine (keeps_includeGlobal path true true r hlone).bind ?_
  rintro g ⟨o, r'⟩ rfl
  cases o with
  | error e => exact (keeps_offerError e r').map fun _ _ hx => hx
  | _ => exact rfl

lemma keeps_drain (u : Run.Unwinding κ σ) :
    (drain s fuel u).Keeps lone (fun g u => u.run.globals = g) u.run.globals := by
  induction fuel generalizing u with
  | zero =>
    rw [drain]
    cases u.run.callbacks with
    | nil => exact rfl
    | cons code rest => trivial
  | succ fuel ih =>
    rw [drain]
    cases u.run.callbacks with
    | nil => exact rfl
    | cons code rest =>
      exact .aside (r := u.run.calling code rest) fun y => ih ⟨y.2.2.settle s _ _, _⟩

lemma keeps_dispose (r : Run κ σ) : (dispose s fuel r).Keeps lone Leaves r.globals := by
  rw [dispose]
  split
  · exact rfl
  · refine (keeps_drain ⟨r.tornDown, none⟩).map ?_
    rintro g u rfl
    split <;> exact rfl

/-- An operation goes on from what its own deed makes of the global variables. Scripts are called on
lent variables if it does not reach out and is asked for by no script on the global ones. -/
theorem keeps_perform (op : Op κ σ) (context : Option (ScriptContext κ)) (vars : Variables)
    (r : Run κ σ) :
    (perform s fuel op vars r).Keeps
      ((Deed.mk context vars r (some op)).reachesOut = false ∧
        (context.isSome = true → vars.isGlobal = false))
      (LeavesOn vars) ((Deed.mk context vars r (some op)).write r.globals) := by
  cases op with
  | assign f => cases vars <;> exact ⟨rfl, rfl⟩
  | call code input => exact .aside fun y => ⟨rfl, rfl⟩
  | resolveType name caller autoload =>
    exact (keeps_resolveType name caller autoload r).map fun _ _ hx => ⟨rfl, hx⟩
  | needType name caller autoload =>
    exact (keeps_needType name caller autoload r).map fun _ _ hx => ⟨rfl, hx⟩
  | ensureType d =>
    exact (keeps_ensureType d r).map fun _ _ hx => ⟨rfl, hx⟩
  | resolveScript path dir =>
    refine keeps_ofOption fun x hx => ?_
    obtain ⟨⟨found, r₁⟩, hres, rfl⟩ := Option.map_eq_some_iff.1 hx
    obtain ⟨w, rfl⟩ := resolveScript_world hres
    exact ⟨rfl, rfl⟩
  | includeShared q =>
    exact keeps_includeScript q r fun hlone => hlone.2 (Option.isNone_eq_false_iff.1 hlone.1)
  | includeLending q bindings =>
    exact (keeps_includeScript q r fun _ => rfl).map fun _ _ hx => ⟨rfl, hx.2⟩
  | includeGlobal path once require =>
    refine (keeps_includeGlobal path once require r ?_).map fun _ _ hx => ⟨rfl, hx⟩
    exact fun hlone => nomatch hlone.1
  | runEntry path =>
    refine (keeps_runEntry path r ?_).map fun _ _ hx => ⟨rfl, hx⟩
    exact fun hlone => nomatch hlone.1
  | offerError e => exact (keeps_offerError e r).map fun _ _ hx => ⟨rfl, hx⟩
  | dispose => exact (keeps_dispose r).map fun _ _ hx => ⟨rfl, hx⟩
  | declareFunction f => exact ⟨rfl, r.globals_declareFunction f⟩
  | declareType d => exact ⟨rfl, r.globals_declareType d⟩
  | declareAlias d further => exact ⟨rfl, r.globals_declareAlias d further⟩
  | declareConstant c => exact ⟨rfl, r.globals_declareConstant c⟩
  | markIncluded u => exact ⟨rfl, Run.globals_markIncluded u r⟩
  | onShutdown code => exact ⟨rfl, Run.globals_onShutdown code r⟩
  | keep resource => exact ⟨rfl, r.globals_keep resource⟩
  | handBack id => exact ⟨rfl, r.globals_handBack id⟩
  | track path => exact ⟨rfl, r.globals_track path⟩
  | untrack path => exact ⟨rfl, r.globals_untrack path⟩
  | _ => exact ⟨rfl, rfl⟩

end Errand

/-! ### Executions in one line of time -/

/-- What code does in some context: it keeps to its variables, and its deeds are in one line of
time. If it is no script on the global variables, no other is either, unless code reaches out. -/
structure Recounts (context : Option (ScriptContext κ)) (vars : Variables) (r : Run κ σ)
    (ds : List (Deed κ σ)) (x : Outcome Value × Variables × Run κ σ) : Prop where
  isGlobal : x.2.1.isGlobal = vars.isGlobal
  timely : Timely r.globals ds x.2.2.globals
  confined : (context.isSome = true → vars.isGlobal = false) → Confined ds

section Executions

variable {T : Account κ σ} {fuel : Nat} {context : Option (ScriptContext κ)} {vars : Variables}
  {ds : List (Deed κ σ)}

/-- Whatever is told of a call is in one line of time. -/
def Account.KeepsTime (T : Account κ σ) : Prop :=
  ∀ {code input context vars r ds x}, T code input context vars r = some (ds, x) →
    Recounts context vars r ds x

lemma Errand.Keeps.tell {α : Type} {lone : Prop} {post : Bindings → α → Prop} {g : Bindings}
    {e : Errand κ σ α} {x : α} (he : e.Keeps lone post g) (hT : T.KeepsTime)
    (h : e.tell T = some (ds, x)) :
    ∃ g', Timely g ds g' ∧ post g' x ∧ (lone → Confined ds) := by
  -- on the errand: a call is told of as a whole, and the next one begins where it has ended
  induction e generalizing g ds with
  | stuck => cases h
  | done x =>
    cases h
    exact ⟨g, rfl, he, fun _ => .nil⟩
  | call code input context vars r next ih =>
    obtain ⟨hg, hscript, hnext⟩ := he
    obtain ⟨⟨ds₁, y⟩, hcall, h⟩ := Option.bind_eq_some_iff.1 h
    obtain ⟨⟨ds₂, x₂⟩, hrest, heq⟩ := Option.map_eq_some_iff.1 h
    cases heq
    have hcalled := hT hcall
    obtain ⟨g', htimely, hpost, hconfined⟩ := ih y (hnext y hcalled.isGlobal) hrest
    rw [← hg]
    exact ⟨g', hcalled.timely.append htimely, hpost,
      fun hlone => (hcalled.confined (hscript hlone)).append (hconfined hlone)⟩

lemma recounts_tell (hT : T.KeepsTime) {g : Guest κ σ} {x : Outcome Value × Variables × Run κ σ}
    (h : g.tell s T fuel context vars r = some (ds, x)) : Recounts context vars r ds x := by
  have outside (op : Option (Op κ σ)) (r : Run κ σ) {vars : Variables}
      (hlone : context.isSome = true → vars.isGlobal = false) :
      (Deed.mk context vars r op).inGlobalScope = false := by
    rw [Deed.inGlobalScope, Bool.and_eq_false_imp]
    exact hlone
  -- on the code: the rest of it begins where the operation has left the global variables
  induction g generalizing vars r ds with
  | done o =>
    cases h
    exact ⟨rfl, rfl, fun _ => .nil⟩
  | look next ih =>
    obtain ⟨⟨ds₁, x₁⟩, hrest, heq⟩ := Option.map_eq_some_iff.1 h
    cases heq
    obtain ⟨hvars, htimely, hconfined⟩ := ih _ hrest
    refine ⟨hvars, ⟨rfl, htimely⟩, fun hlone => ?_⟩
    exact .cons (outside none r hlone) fun _ => hconfined hlone
  | ask op next ih =>
    obtain ⟨⟨ds₁, a, vars₁, r₁⟩, hop, h⟩ := Option.bind_eq_some_iff.1 h
    obtain ⟨⟨ds₂, x₂⟩, hrest, heq⟩ := Option.map_eq_some_iff.1 h
    cases heq
    obtain ⟨g₁, htimely₁, ⟨hvars₁, rfl⟩, hconfined₁⟩ :=
      (Errand.keeps_perform op context vars r).tell hT hop
    obtain ⟨hvars, htimely, hconfined⟩ := ih a hrest
    refine ⟨hvars.trans hvars₁, ⟨rfl, htimely₁.append htimely⟩, fun hlone => ?_⟩
    refine .cons (outside _ r hlone) fun hreach => (hconfined₁ ⟨hreach, hlone⟩).append ?_
    exact hconfined fun hscript => hvars₁.trans (hlone hscript)

/-- However deep code is called, what is done is in one line of time. -/
theorem keepsTime_account (s : Setting κ σ) (depth : Nat) : (s.account depth).KeepsTime := by
  -- on the depth: code is called one level further down
  induction depth with
  | zero =>
    intro code input context vars r ds x h
    cases h
  | succ depth ih =>
    intro code input context vars r ds x h
    exact recounts_tell ih h

end Executions

end ScriptRun
