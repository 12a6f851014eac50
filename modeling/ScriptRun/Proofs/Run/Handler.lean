import ScriptRun.Proofs.Run.OnceOnly
import ScriptRun.Proofs.Run.Tale

/-!
# The exception handler

An error is offered to the installed handler, which is out of its place while it is asked. What
happens to the handlers of a run is a list of turns: one is installed or taken away, one is asked,
one comes back or panics. The turns of an execution are well nested (`Passes`), and they alone
decide which handler is installed in the end.

So a handler that replaces itself is replaced, and one that leaves its place alone is back in it.
One that takes itself away is back as well: an empty place shows only that nobody was installed.
-/

namespace ScriptRun

variable {κ σ α : Type} {s : Setting κ σ} {r r' : Run κ σ}

/-! ### Turns -/

/-- What happens to the exception handlers of a run. -/
inductive Turn (κ : Type) where
  /-- Code installs a handler, or takes the installed one away. -/
  | put (handler : Option κ)
  /-- An error is offered to the installed handler, which leaves its place. -/
  | asked (handler : κ)
  /-- The handler comes back, with an error of its own or without. -/
  | returned (handler : κ)
  | panicked (handler : κ)

namespace Turn

/-- What is installed from then on, if code sees to that. -/
def change? : Turn κ → Option (Option κ)
  | put h => some h
  | _ => none

/-- Handlers are asked and come back. -/
def IsCalm : Turn κ → Prop
  | asked _ | returned _ => True
  | put _ | panicked _ => False

end Turn

/-- The turns of a call. -/
abbrev Turns (κ σ : Type) :=
  κ → Input → Option (ScriptContext κ) → Variables → Run κ σ → List (Turn κ)

section Turns

variable (s : Setting κ σ) (call : Invoke κ σ) (T : Turns κ σ) (fuel : Nat)

/-- The turns of the calls of an errand, one call after the other. -/
def Errand.turns : Errand κ σ α → List (Turn κ)
  | stuck => []
  | done _ => []
  | .call code input context vars r next =>
    T code input context vars r ++
      match call code input context vars r with
      | none => []
      | some y => (next y).turns

/-- The turns as an error is offered to the handler. -/
def Run.offerTurns (e : RunError) (r : Run κ σ) : List (Turn κ) :=
  match r.handler with
  | none => []
  | some c =>
    .asked c :: (T c (.caught e) none .global (r.asking e) ++
      match call c (.caught e) none .global (r.asking e) with
      | none => []
      | some (.panic _, _, _) => [.panicked c]
      | some _ => [.returned c])

/-- The turns of the entry script, and of the handler that is asked about its error. -/
def Run.entryTurns (path : String) (r : Run κ σ) : List (Turn κ) :=
  (Errand.includeGlobal s fuel path true true r).turns call T ++
    match Run.includeGlobal s call fuel path true true r with
    | some (.error e, r) => r.offerTurns call T e
    | _ => []

/-- The turns of an operation. -/
def Op.turns (op : Op κ σ) (vars : Variables) (r : Run κ σ) : List (Turn κ) :=
  match op with
  | .setHandler code => [.put (some code)]
  | .clearHandler => [.put none]
  | .offerError e => r.offerTurns call T e
  | .runEntry path => r.entryTurns s call T fuel path
  | op => (Errand.perform s fuel op vars r).turns call T

/-- The turns of guest code, and of the code that it calls. -/
def Guest.turns (context : Option (ScriptContext κ)) :
    Guest κ σ → Variables → Run κ σ → List (Turn κ)
  | done _, _, _ => []
  | look next, vars, r => turns context (next (view context vars r)) vars r
  | ask op next, vars, r =>
    op.turns s call T fuel vars r ++
      match op.perform s call fuel vars r with
      | none => []
      | some (a, vars, r) => turns context (next a) vars r

end Turns

/-- The turns of a label that is called, with calls nested at most `depth` deep. -/
def Setting.turns (s : Setting κ σ) (depth : Nat) : Turns κ σ :=
  fun label input context vars r =>
    match depth with
    | 0 => []
    | depth + 1 =>
      (s.code label input).turns s (s.invoke depth) (s.turns depth) depth context vars r

/-! ### How turns nest -/

/-- From one installed handler, or none, and the handlers that are being asked, the innermost first,
these turns lead on. Only the installed handler is asked, and its place is empty then. Only the
innermost one comes back, to its place unless another one is installed by then, or panics, and then
it never comes back. -/
inductive Passes : Option κ → List κ → List (Turn κ) → Option κ → List κ → Prop
  | nil (h : Option κ) (up : List κ) : Passes h up [] h up
  | put {h h₁ h' : Option κ} {up up' : List κ} {ts : List (Turn κ)}
    (hrest : Passes h₁ up ts h' up') : Passes h up (.put h₁ :: ts) h' up'
  | asked {c : κ} {h' : Option κ} {up up' : List κ} {ts : List (Turn κ)}
    (hrest : Passes none (c :: up) ts h' up') : Passes (some c) up (.asked c :: ts) h' up'
  | returned {c : κ} {h h' : Option κ} {up up' : List κ} {ts : List (Turn κ)}
    (hrest : Passes (h.or (some c)) up ts h' up') :
    Passes h (c :: up) (.returned c :: ts) h' up'
  | panicked {c : κ} {h h' : Option κ} {up up' : List κ} {ts : List (Turn κ)}
    (hrest : Passes h up ts h' up') : Passes h (c :: up) (.panicked c :: ts) h' up'

/-- The handlers that are being asked after a turn. -/
def Turn.underway (up : List κ) : Turn κ → List κ
  | put _ => up
  | asked c => c :: up
  | returned _ | panicked _ => up.tail

namespace Passes

variable {h h₁ h' : Option κ} {up up₁ up' : List κ} {ts ts' : List (Turn κ)}

lemma append (hts : Passes h up ts h₁ up₁) (hts' : Passes h₁ up₁ ts' h' up') :
    Passes h up (ts ++ ts') h' up' := by
  induction hts with
  | nil => exact hts'
  | put _ ih => exact .put (ih hts')
  | asked _ ih => exact .asked (ih hts')
  | returned _ ih => exact .returned (ih hts')
  | panicked _ ih => exact .panicked (ih hts')

lemma after_put (hts : Passes h up (ts ++ .put h₁ :: ts') h' up') :
    Passes h₁ (ts.foldl Turn.underway up) ts' h' up' := by
  induction ts generalizing h up with
  | nil =>
    cases hts with
    | put hrest => exact hrest
  | cons t ts ih =>
    cases hts with
    | put hrest | asked hrest | returned hrest | panicked hrest => exact ih hrest

/-- Where nobody is installed and nobody is asked, that stays so until one is installed. -/
lemma eq_none (hts : Passes none [] ts h' up') (hput : ts.filterMap Turn.change? = []) :
    h' = none := by
  cases hts with
  | nil => rfl
  | put => cases hput

/-- While handlers are asked and come back, one thing stays as it is: the installed handler, or the
innermost one that is asked if there is none. -/
lemma or_head? (hts : Passes h up ts h' up') (hcalm : ∀ t ∈ ts, t.IsCalm) :
    h'.or up'.head? = h.or up.head? := by
  induction hts with
  | nil => rfl
  | put | panicked => exact (hcalm _ List.mem_cons_self : False).elim
  | asked _ ih => exact ih (List.forall_mem_cons.1 hcalm).2
  | returned _ ih =>
    rw [ih (List.forall_mem_cons.1 hcalm).2, Option.or_assoc]
    rfl

end Passes

/-! ### What has nothing to do with handlers -/

/-- Operations by which the exception handler changes or is asked. -/
def Op.handles : Op κ σ → Bool
  | setHandler _ | clearHandler | offerError _ | runEntry _ => true
  | _ => false

/-- The same handler is installed, or none as before. -/
def KeepsHandler : Effect κ σ := fun _ r r' => r'.handler = r.handler

instance : Std.Refl (KeepsHandler (κ := κ) (σ := σ) none) := ⟨fun _ => rfl⟩

instance (o : Option (Op κ σ)) : Trans (KeepsHandler o) (KeepsHandler none) (KeepsHandler o) :=
  ⟨fun h h' => Eq.trans h' h⟩

namespace KeepsHandler

variable {fuel : Nat}

lemma resolveScript {path : String} {dir : Option String} {found : Found κ}
    (h : Run.resolveScript s fuel path dir r = some (found, r')) : KeepsHandler none r r' := by
  obtain ⟨w, rfl⟩ := resolveScript_world h
  rfl

lemma entered {u : ScriptUnit κ} (hd : r.isDisposed = false) :
    KeepsHandler none r (r.entered u) := by
  obtain ⟨lifecycle, h⟩ := Run.begin_frame u hd
  rw [Run.entered, h]
  rfl

lemma declareFunction (f : FunctionDecl κ) (r : Run κ σ) :
    KeepsHandler none r (r.declareFunction f).2 := by
  obtain ⟨functions, h⟩ := r.declareFunction_frame f
  rw [h]
  rfl

lemma declareType (d : TypeDecl) (r : Run κ σ) : KeepsHandler none r (r.declareType d).2 := by
  obtain ⟨types, h⟩ := r.declareType_frame d
  rw [h]
  rfl

lemma declareAlias (d : TypeDecl) (further : String) (r : Run κ σ) :
    KeepsHandler none r (r.declareAlias d further).2 := by
  obtain ⟨types, h⟩ := r.declareAlias_frame d further
  rw [h]
  rfl

lemma declareConstant (c : Constant) (r : Run κ σ) :
    KeepsHandler none r (r.declareConstant s c).2 := by
  obtain ⟨constants, h | ⟨d, h⟩⟩ := r.declareConstant_frame s c <;> rw [h] <;> rfl

lemma markIncluded (u : ScriptUnit κ) (r : Run κ σ) : KeepsHandler none r (r.markIncluded u) := by
  obtain ⟨included, h⟩ := Run.mark_frame u r
  rw [Run.markIncluded, h]
  split <;> rfl

lemma onShutdown (code : κ) (r : Run κ σ) : KeepsHandler none r (r.onShutdown code) := by
  rw [Run.onShutdown]
  split <;> rfl

lemma keep (resource : Resource σ) (r : Run κ σ) : KeepsHandler none r (r.keep resource).2 := by
  rw [Run.keep]
  split <;> rfl

lemma handBack (id : Nat) (r : Run κ σ) : KeepsHandler none r (r.handBack id).2 := by
  rw [Run.handBack]
  split <;> rfl

lemma track (path : String) (r : Run κ σ) : KeepsHandler none r (r.track path).2 := by
  rw [Run.track]
  split <;> rfl

lemma untrack (path : String) (r : Run κ σ) : KeepsHandler none r (r.untrack path).2 := by
  rw [Run.untrack]
  split <;> rfl

lemma leads_includeScript (q : Request) (vars : Variables) :
    (Errand.includeScript s fuel q vars r).Leads KeepsHandler (·.2.2) none r := by
  rw [Errand.includeScript]
  split
  case isTrue => exact refl r
  case isFalse hd =>
    cases hres : Run.resolveScript s fuel q.path q.dir r with
    | none => trivial
    | some x =>
      obtain ⟨found, r₁⟩ := x
      have hsearch : KeepsHandler none r r₁ := resolveScript hres
      rcases found with p | _ | u
      · exact hsearch
      · exact (includeRaw_frame s q r₁).2.trans hsearch
      · obtain ⟨w, rfl⟩ := resolveScript_world hres
        dsimp only
        split
        case isTrue => exact hsearch
        case isFalse => exact ⟨entered (Bool.eq_false_iff.2 hd), fun _ => rfl⟩

lemma leads_includeGlobal (path : String) (once require : Bool) :
    (Errand.includeGlobal s fuel path once require r).Leads KeepsHandler (·.2) none r :=
  (leads_includeScript _ .global).map fun _ => rfl

lemma leads_dispose : (Errand.dispose s fuel r).Leads KeepsHandler (·.2) none r := by
  rw [Errand.dispose]
  split
  case isTrue => exact refl r
  case isFalse =>
    have hdrain : (Errand.drain s fuel ⟨r.tornDown, none⟩).Leads KeepsHandler (·.run) none
        r.tornDown := .drain (fun _ _ _ => rfl) (fun _ _ => rfl) fuel _
    have htorn : KeepsHandler none r r.tornDown := rfl
    refine (hdrain.head htorn).map fun u => ?_
    split <;> rfl

lemma leads_perform {op : Op κ σ} (hop : op.handles = false) (vars : Variables) :
    (Errand.perform s fuel op vars r).Leads KeepsHandler (·.2.2) none r := by
  have hhook (name : String) : KeepsHandler none r (r.record (.began (.autoload name))) := rfl
  cases op with
  | setHandler | clearHandler | offerError | runEntry => cases hop
  | call code input => exact ⟨rfl, fun _ => rfl⟩
  | resolveType name caller autoload =>
    exact (Errand.Leads.resolveType hhook name caller autoload).map fun x => refl x.2
  | needType name caller autoload =>
    exact (Errand.Leads.needType hhook name caller autoload).map fun x => refl x.2
  | ensureType d => exact (Errand.Leads.ensureType hhook d).map fun x => refl x.2
  | includeShared q => exact leads_includeScript q vars
  | includeLending q bindings =>
    exact (leads_includeScript q (.lent bindings)).map fun x => refl x.2.2
  | includeGlobal path once require =>
    exact (leads_includeGlobal path once require).map fun x => refl x.2
  | dispose => exact leads_dispose.map fun x => refl x.2
  | resolveScript path dir =>
    apply Errand.Leads.ofOption
    intro x hx
    obtain ⟨⟨found, r₁⟩, hres, rfl⟩ := Option.map_eq_some_iff.1 hx
    exact resolveScript hres
  | assign f => cases vars <;> exact Eq.refl r.handler
  | declareFunction f => exact declareFunction f r
  | declareType d => exact declareType d r
  | declareAlias d further => exact declareAlias d further r
  | declareConstant c => exact declareConstant c r
  | markIncluded u => exact markIncluded u r
  | onShutdown code => exact onShutdown code r
  | keep resource => exact keep resource r
  | handBack id => exact handBack id r
  | track path => exact track path r
  | untrack path => exact untrack path r
  | _ => exact Eq.refl r.handler

end KeepsHandler

/-! ### The turns of an execution -/

/-- The installed handler is asked, on the run as it is without it. It panics, or it comes back. -/
lemma Run.offerError_some {call : Invoke κ σ} {T : Turns κ σ} {e : RunError} {c : κ}
    {o : Outcome Bool} (hinstalled : r.handler = some c)
    (h : Run.offerError call e r = some (o, r')) :
    ∃ o₁ vars r₁, call c (.caught e) none .global (r.asking e) = some (o₁, vars, r₁) ∧
      ((∃ p, o = .panic p) ∧ r'.handler = r₁.handler ∧ r.offerTurns call T e =
          .asked c :: (T c (.caught e) none .global (r.asking e) ++ [.panicked c]) ∨
        r'.handler = r₁.handler.or (some c) ∧ r.offerTurns call T e =
          .asked c :: (T c (.caught e) none .global (r.asking e) ++ [.returned c])) := by
  have hasking : { r with handler := none }.record (.handled e) = r.asking e := rfl
  rw [offerTurns, hinstalled]
  rw [offerError, hinstalled] at h
  dsimp only at h ⊢
  rw [hasking] at h
  cases hcall : call c (.caught e) none .global (r.asking e) with
  | none =>
    rw [hcall] at h
    cases h
  | some y =>
    obtain ⟨o₁, vars, r₁⟩ := y
    rw [hcall] at h
    cases o₁ with
    | panic p =>
      cases h
      exact ⟨_, vars, r', rfl, .inl ⟨⟨p, rfl⟩, rfl, rfl⟩⟩
    | ok v =>
      cases h
      exact ⟨_, vars, r₁, rfl, .inr ⟨rfl, rfl⟩⟩
    | error e' =>
      cases h
      exact ⟨_, vars, r₁, rfl, .inr ⟨rfl, rfl⟩⟩

/-- Calls that come to an end take these turns, whoever is being asked meanwhile. -/
def Turns.Tracks (T : Turns κ σ) (call : Invoke κ σ) : Prop :=
  ∀ {code input context vars r x}, call code input context vars r = some x →
    ∀ up, Passes r.handler up (T code input context vars r) x.2.2.handler up

section Tracks

variable {call : Invoke κ σ} {T : Turns κ σ} {fuel : Nat}

variable (hT : T.Tracks call)
include hT

lemma Errand.tracks {e : Errand κ σ α} {final : α → Run κ σ}
    (he : e.Leads KeepsHandler final none r) {x : α} (h : e.run call = some x) (up : List κ) :
    Passes r.handler up (e.turns call T) (final x).handler up := by
  -- on the calls: each finds the handler as the one before it has left it
  induction e generalizing r with
  | stuck => cases h
  | done y =>
    cases h
    have hsame : (final x).handler = r.handler := he
    rw [hsame]
    exact .nil _ up
  | call code input context vars q next ih =>
    obtain ⟨y, hcall, hnext⟩ := Option.bind_eq_some_iff.1 h
    have hhead : Passes r.handler up (T code input context vars q) y.2.2.handler up := by
      rw [← he.1]
      exact hT hcall up
    rw [turns, hcall]
    exact hhead.append (ih y (he.2 y) hnext)

lemma Run.tracks_offerError {e : RunError} {o : Outcome Bool}
    (h : Run.offerError call e r = some (o, r')) (up : List κ) :
    Passes r.handler up (r.offerTurns call T e) r'.handler up := by
  cases hinstalled : r.handler with
  | none =>
    rw [offerError, hinstalled] at h
    cases h
    rw [offerTurns, hinstalled]
    exact .nil none up
  | some c =>
    obtain ⟨o₁, vars, r₁, hcall, hend⟩ := offerError_some (T := T) hinstalled h
    have hinner : Passes none (c :: up) (T c (.caught e) none .global (r.asking e)) r₁.handler
        (c :: up) := hT hcall (c :: up)
    rcases hend with ⟨-, hhandler, hturns⟩ | ⟨hhandler, hturns⟩
    · rw [hturns, hhandler]
      exact .asked (hinner.append (.panicked (.nil _ up)))
    · rw [hturns, hhandler]
      exact .asked (hinner.append (.returned (.nil _ up)))

lemma Run.tracks_runEntry {path : String} {o : Outcome Value}
    (h : Run.runEntry s call fuel path r = some (o, r')) (up : List κ) :
    Passes r.handler up (r.entryTurns s call T fuel path) r'.handler up := by
  rw [runEntry] at h
  rw [entryTurns]
  cases hinclude : includeGlobal s call fuel path true true r with
  | none =>
    rw [hinclude] at h
    cases h
  | some x =>
    obtain ⟨o₁, r₁⟩ := x
    rw [hinclude] at h
    have hscript := Errand.tracks hT (KeepsHandler.leads_includeGlobal path true true)
      ((Errand.run_includeGlobal path true true).trans hinclude) up
    refine hscript.append ?_
    cases o₁ with
    | error e =>
      obtain ⟨⟨taken, r₂⟩, hoffer, heq⟩ := Option.map_eq_some_iff.1 h
      cases heq
      exact tracks_offerError hT hoffer up
    | ok v =>
      cases h
      exact .nil _ up
    | panic p =>
      cases h
      exact .nil _ up

lemma Op.tracks {op : Op κ σ} {vars vars' : Variables} {a : op.Answer}
    (h : op.perform s call fuel vars r = some (a, vars', r')) (up : List κ) :
    Passes r.handler up (op.turns s call T fuel vars r) r'.handler up := by
  have hplain (hop : op.handles = false) :
      Passes r.handler up ((Errand.perform s fuel op vars r).turns call T) r'.handler up :=
    Errand.tracks hT (KeepsHandler.leads_perform hop vars) ((Errand.run_perform op vars).trans h) up
  cases op with
  | setHandler code =>
    cases h
    exact .put (.nil _ up)
  | clearHandler =>
    cases h
    exact .put (.nil _ up)
  | offerError e =>
    obtain ⟨⟨o, r₁⟩, hoffer, heq⟩ := Option.map_eq_some_iff.1 h
    cases heq
    exact Run.tracks_offerError hT hoffer up
  | runEntry path =>
    obtain ⟨⟨o, r₁⟩, hentry, heq⟩ := Option.map_eq_some_iff.1 h
    cases heq
    exact Run.tracks_runEntry hT hentry up
  | _ => exact hplain rfl

lemma Guest.tracks {g : Guest κ σ} {context : Option (ScriptContext κ)} {vars vars' : Variables}
    {o : Outcome Value} (h : g.exec s call fuel context vars r = some (o, vars', r'))
    (up : List κ) :
    Passes r.handler up (g.turns s call T fuel context vars r) r'.handler up := by
  induction g generalizing vars r with
  | done result =>
    cases h
    exact .nil _ up
  | look next ih => exact ih _ h
  | ask op next ih =>
    rw [exec] at h
    rw [turns]
    cases hperform : op.perform s call fuel vars r with
    | none =>
      rw [hperform] at h
      cases h
    | some x =>
      rw [hperform] at h
      exact (Op.tracks hT hperform up).append (ih x.1 h)

end Tracks

/-- Whatever code is called, its turns are well nested. -/
theorem Setting.tracks (s : Setting κ σ) (depth : Nat) :
    (s.turns depth).Tracks (s.invoke depth) := by
  -- on the depth: code is called one level further down
  induction depth with
  | zero => exact fun h => nomatch h
  | succ depth ih => exact fun h => Guest.tracks ih h

/-! ### What code asks for is among the turns -/

/-- What is installed from then on, if the operation sees to that. -/
def Op.change? : Op κ σ → Option (Option κ)
  | setHandler code => some (some code)
  | clearHandler => some none
  | _ => none

/-- What code has asked to be installed, one after the other. -/
def changes (ds : List (Deed κ σ)) : List (Option κ) := ds.filterMap (·.op.bind Op.change?)

section Changes

variable {call : Invoke κ σ} {T : Turns κ σ} {teller : Teller κ σ} {fuel : Nat}

lemma changes_append (ds ds' : List (Deed κ σ)) :
    changes (ds ++ ds') = changes ds ++ changes ds' :=
  List.filterMap_append

lemma changes_cons (d : Deed κ σ) (ds : List (Deed κ σ)) :
    changes (d :: ds) = (d.op.bind Op.change?).toList ++ changes ds := by
  rw [changes, List.filterMap_cons]
  cases d.op.bind Op.change? <;> rfl

variable (htells : teller.Tells call)
  (hT : ∀ code input context vars r, (T code input context vars r).filterMap Turn.change? =
    changes (teller code input context vars r).deeds)
include htells hT

lemma Errand.changes_turns (e : Errand κ σ α) :
    (e.turns call T).filterMap Turn.change? = changes (e.follow teller).deeds := by
  induction e with
  | stuck => rfl
  | done x => rfl
  | call code input context vars r next ih =>
    rw [turns, follow, Tale.deeds_bind, htells, List.filterMap_append, changes_append, hT]
    cases call code input context vars r with
    | none => rfl
    | some y => simp [ih]

lemma Run.changes_offerTurns (e : RunError) (r : Run κ σ) :
    (r.offerTurns call T e).filterMap Turn.change? =
      changes ((Errand.offerError e r).follow teller).deeds := by
  rw [offerTurns, Errand.offerError]
  cases r.handler with
  | none => rfl
  | some c =>
    rw [Run.asking]
    dsimp only
    rw [Errand.follow, Tale.deeds_bind, htells, changes_append, List.filterMap_cons_none rfl,
      List.filterMap_append, hT]
    congr 1
    cases call c (.caught e) none .global ({ r with handler := none }.record (.handled e)) with
    | none => rfl
    | some y =>
      obtain ⟨o, vars, r₁⟩ := y
      cases o <;> rfl

lemma Run.changes_entryTurns (path : String) (r : Run κ σ) :
    (r.entryTurns s call T fuel path).filterMap Turn.change? =
      changes ((Errand.runEntry s fuel path r).follow teller).deeds := by
  rw [entryTurns, Errand.runEntry, Errand.deeds_follow_bind htells, changes_append,
    List.filterMap_append, Errand.changes_turns htells hT, Errand.run_includeGlobal]
  congr 1
  cases includeGlobal s call fuel path true true r with
  | none => rfl
  | some x =>
    obtain ⟨o, r₁⟩ := x
    cases o with
    | error e =>
      rw [Option.elim_some, Errand.deeds_follow_map htells]
      exact changes_offerTurns htells hT e r₁
    | _ => rfl

omit htells hT in
lemma changes_closingDeeds (cs : List (Closing σ)) (u : Run.Unwinding κ σ) :
    changes (closingDeeds s cs u) = [] := by
  induction cs generalizing u with
  | nil => rfl
  | cons c cs ih => exact ih _

omit hT in
lemma Run.changes_followDispose (r : Run κ σ) :
    changes (r.followDispose s teller fuel).deeds =
      changes ((Errand.dispose s fuel r).follow teller).deeds := by
  rw [followDispose, Errand.dispose]
  split
  case isTrue => rfl
  case isFalse =>
    rw [Errand.deeds_follow_map htells, Tale.deeds_bind, changes_append]
    cases ((Errand.drain s fuel ⟨r.tornDown, none⟩).follow teller).result with
    | none => exact List.append_nil _
    | some u =>
      rw [Option.elim_some, changes_closingDeeds, List.append_nil]

lemma Op.changes_turns (op : Op κ σ) (vars : Variables) (r : Run κ σ) :
    (op.turns s call T fuel vars r).filterMap Turn.change? =
      op.change?.toList ++ changes (op.follow s teller fuel vars r).deeds := by
  have hplain
      (hturns : op.turns s call T fuel vars r = (Errand.perform s fuel op vars r).turns call T)
      (hchange : op.change? = none)
      (hfollow : op.follow s teller fuel vars r = (Errand.perform s fuel op vars r).follow teller) :
      (op.turns s call T fuel vars r).filterMap Turn.change? =
        op.change?.toList ++ changes (op.follow s teller fuel vars r).deeds := by
    rw [hturns, hchange, hfollow]
    exact Errand.changes_turns htells hT _
  cases op with
  | setHandler code => rfl
  | clearHandler => rfl
  | offerError e =>
    rw [turns, Run.changes_offerTurns htells hT]
    exact congrArg changes (Errand.deeds_follow_map htells _ _).symm
  | runEntry path =>
    rw [turns, Run.changes_entryTurns htells hT]
    exact congrArg changes (Errand.deeds_follow_map htells _ _).symm
  | dispose =>
    have hdispose : changes (dispose.follow s teller fuel vars r).deeds =
        changes ((Errand.perform s fuel .dispose vars r).follow teller).deeds :=
      (Run.changes_followDispose htells r).trans
        (congrArg changes (Errand.deeds_follow_map htells _ _).symm)
    rw [hdispose]
    exact Errand.changes_turns htells hT _
  | _ => exact hplain rfl rfl rfl

lemma Guest.changes_turns (g : Guest κ σ) (context : Option (ScriptContext κ)) (vars : Variables)
    (r : Run κ σ) :
    (g.turns s call T fuel context vars r).filterMap Turn.change? =
      changes (g.follow s teller fuel context vars r).deeds := by
  induction g generalizing vars r with
  | done result => rfl
  | look next ih => exact ih _ vars r
  | ask op next ih =>
    rw [turns, follow, Tale.cons, changes_cons, Tale.deeds_bind, changes_append,
      List.filterMap_append, Op.changes_turns htells hT, Op.result_follow htells,
      List.append_assoc]
    cases op.perform s call fuel vars r with
    | none => rfl
    | some x => simp [ih]

end Changes

/-- The changes among the turns of a call are what code has asked for meanwhile. -/
theorem Setting.changes_turns (s : Setting κ σ) (depth : Nat) (code : κ) (input : Input)
    (context : Option (ScriptContext κ)) (vars : Variables) (r : Run κ σ) :
    (s.turns depth code input context vars r).filterMap Turn.change? =
      changes (s.follow depth code input context vars r).deeds := by
  induction depth generalizing code input context vars r with
  | zero => rfl
  | succ depth ih =>
    exact Guest.changes_turns (s.tells_follow depth) ih (s.code code input) context vars r

/-! ### After an error -/

/-- The turns as an error is offered to the handler, with calls nested at most `depth` deep. -/
def Setting.offerTurns (s : Setting κ σ) (depth : Nat) (e : RunError) (r : Run κ σ) :
    List (Turn κ) :=
  r.offerTurns (s.invoke depth) (s.turns depth) e

section Offer

variable {call : Invoke κ σ} {T : Turns κ σ} {depth : Nat} {e : RunError} {c : κ} {o : Outcome Bool}

/-- An error is offered to a handler, which comes back. The changes among the turns are what code
has asked for meanwhile, and the turns are well nested. Afterwards there is a handler: the one that
was asked if code has changed nothing, and else what it has installed last. If it has taken a
handler away last, the innermost one that was being asked then is back, so this change is not kept.
-/
theorem handler_after_error (hinstalled : r.handler = some c)
    (hoffer : Run.offerError (s.invoke depth) e r = some (o, r')) (hreturn : ∀ p, o ≠ .panic p) :
    (s.offerTurns depth e r).filterMap Turn.change? =
        changes (s.follow depth c (.caught e) none .global (r.asking e)).deeds ∧
      Passes (some c) [] (s.offerTurns depth e r) r'.handler [] ∧
      r'.handler ≠ none ∧
      ((s.offerTurns depth e r).filterMap Turn.change? = [] → r'.handler = some c) ∧
      ∀ pre h post, s.offerTurns depth e r = pre ++ .put h :: post → (∀ t ∈ post, t.IsCalm) →
        r'.handler = h.or (pre.foldl Turn.underway []).head? ∧ (r'.handler = h ↔ h ≠ none) := by
  have hpasses : Passes (some c) [] (s.offerTurns depth e r) r'.handler [] := by
    rw [← hinstalled]
    exact Run.tracks_offerError (s.tracks depth) hoffer []
  obtain ⟨o₁, vars, r₁, hcall, hend⟩ :=
    Run.offerError_some (T := s.turns depth) hinstalled hoffer
  obtain ⟨hback, hturns⟩ := hend.resolve_left fun hpanic => hpanic.1.elim hreturn
  have hchanges : (s.offerTurns depth e r).filterMap Turn.change? =
      (s.turns depth c (.caught e) none .global (r.asking e)).filterMap Turn.change? := by
    rw [Setting.offerTurns, hturns, List.filterMap_cons_none rfl, List.filterMap_append]
    exact List.append_nil _
  have hsome : r'.handler ≠ none := by
    rw [hback]
    cases r₁.handler <;> exact nofun
  refine ⟨hchanges.trans (s.changes_turns depth _ _ _ _ _), hpasses, hsome, ?_, ?_⟩
  · intro hnone
    have hinner : Passes none [] (s.turns depth c (.caught e) none .global (r.asking e))
        r₁.handler [] := s.tracks depth hcall []
    rw [hback, hinner.eq_none (hchanges.symm.trans hnone)]
    rfl
  · intro pre h post hlast hcalm
    rw [hlast] at hpasses
    have hleft : r'.handler = h.or (pre.foldl Turn.underway []).head? := by
      simpa using hpasses.after_put.or_head? hcalm
    refine ⟨hleft, fun hmet => hmet ▸ hsome, fun hset => ?_⟩
    cases h with
    | none => exact absurd rfl hset
    | some d => exact hleft

end Offer

/-- A handler that installs another one and has that asked, which takes itself away. -/
def Setting.resigning : Setting Bool Nat :=
  { Setting.plain Application.empty with
    code := fun first _ =>
      if first then
        .ask (.setHandler false) fun _ => .ask (.offerError (.script "inner")) fun _ =>
          .done (.ok .null)
      else .ask .clearHandler fun _ => .done (.ok .null) }

/-- The other handler is installed afterwards. -/
theorem handler_after_error_nested :
    let r := ((Setting.resigning.start none 0).setHandler true).2
    ∃ r', Run.offerError (Setting.resigning.invoke 2) (.script "outer") r = some (.ok true, r') ∧
      (Setting.resigning.offerTurns 2 (.script "outer") r).filterMap Turn.change? =
        [some false, none] ∧
      r'.handler = some false := by
  intro r
  have hoffer : Run.offerError (Setting.resigning.invoke 2) (.script "outer") r =
      some (.ok true, { ((r.asking (.script "outer")).asking (.script "inner")) with
        handler := some false }) := rfl
  refine ⟨_, hoffer, rfl, ?_⟩
  obtain ⟨-, -, -, -, hlast⟩ := handler_after_error rfl hoffer nofun
  exact (hlast [.asked true, .put (some false), .asked false] none
    [.returned false, .returned true] rfl (by simp [Turn.IsCalm])).1

/-- A handler that takes itself away and does nothing else. -/
def Setting.leaving : Setting Unit Nat :=
  { Setting.plain Application.empty with
    code := fun _ _ => .ask .clearHandler fun _ => .done (.ok .null) }

/-- The handler that took itself away is installed afterwards. -/
theorem cleared_handler_back :
    let r := ((Setting.leaving.start none 0).setHandler ()).2
    ∃ r', Run.offerError (Setting.leaving.invoke 1) (.script "boom") r = some (.ok true, r') ∧
      changes (Setting.leaving.follow 1 () (.caught (.script "boom")) none .global
        (r.asking (.script "boom"))).deeds = [none] ∧
      r'.handler = some () :=
  ⟨_, rfl, rfl, rfl⟩

end ScriptRun
