import ScriptRun.Proofs.Run.Executions

/-!
# Scripts that include each other once

Code that only accesses variables and includes scripts once comes to an end, however the scripts
include each other: a script is marked before its code runs, so each execution that nests has fewer
scripts left than the one around it. The number of scripts without a mark therefore bounds both how
deep inclusions nest and how many scripts are executed.

A request from outside need not be once. If its path leads to a script that is marked, that script is
executed again, besides those that this bound allows.
-/

namespace ScriptRun

open Relation

variable {κ σ : Type} {s : Setting κ σ} {r r' r'' : Run κ σ}

/-! ### Code that includes once -/

/-- The search for a path ends at every moment, with a script of the application if with any. -/
def Setting.Answers (s : Setting κ σ) (path : String) (dir : Option String) : Prop :=
  ∀ r, Moment s r → ∃ found r',
    Settles (fun n => Run.resolveScript s n path dir r) (found, r') ∧
    ∀ u, found = .ok (some u) → u ∈ s.app.scripts.units

lemma Resolver.mem_of_resolve? {t : ScriptCatalog κ} {a : Resolver} {path : String}
    {dir : Option String} {u : ScriptUnit κ} (h : a.resolve? t path dir = some u) :
    u ∈ t.units := by
  have hlocate {location : String} (h : a.locate? t location = some u) : u ∈ t.units := by
    obtain ⟨rest, -, hu⟩ := Option.bind_eq_some_iff.1 h
    exact (ScriptCatalog.mem_of_find? hu).1
  rw [resolve?] at h
  split at h
  case isTrue => exact hlocate h
  case isFalse =>
    obtain ⟨base, -, h⟩ := List.exists_of_findSome?_eq_some h
    exact hlocate h

/-- A path that no scheme handler is asked about leads to a script of the application or to none. -/
lemma answers_of_unhandled {path : String} {dir : Option String}
    (h : ∀ scheme rest, Path.cutScheme? path = some (scheme, rest) →
      s.app.handler? scheme = none) : s.Answers path dir := by
  intro r _
  cases hcut : Path.cutScheme? path with
  | none =>
    refine ⟨_, r, .of_forall fun n => by rw [Run.resolveScript, hcut], ?_⟩
    intro u hu
    exact Resolver.mem_of_resolve? (Except.ok.inj hu)
  | some cut =>
    obtain ⟨scheme, rest⟩ := cut
    refine ⟨.ok none, r, .of_forall fun n => ?_, fun u hu => ?_⟩
    · rw [Run.resolveScript, hcut]
      simp only [h scheme rest hcut]
    · cases hu

/-- Accesses to variables, and inclusions once. -/
inductive Op.OnceOnly (s : Setting κ σ) : Op κ σ → Prop
  | assign (f : Bindings → Bindings) : OnceOnly s (.assign f)
  | assignGlobals (f : Bindings → Bindings) : OnceOnly s (.assignGlobals f)
  | includeShared {q : Request} (hq : q.once = true) (hp : s.Answers q.path q.dir) :
    OnceOnly s (.includeShared q)
  | includeLending {q : Request} (hq : q.once = true) (hp : s.Answers q.path q.dir)
    (bindings : Bindings) : OnceOnly s (.includeLending q bindings)
  | includeGlobal {path : String} (hp : s.Answers path none) (require : Bool) :
    OnceOnly s (.includeGlobal path true require)

/-- Code that asks for nothing else. -/
inductive Guest.OnceOnly (s : Setting κ σ) : Guest κ σ → Prop
  | done (result : Outcome Value) : OnceOnly s (.done result)
  | look {next : View κ σ → Guest κ σ} (h : ∀ v, OnceOnly s (next v)) : OnceOnly s (.look next)
  | ask {op : Op κ σ} {next : op.Answer → Guest κ σ} (hop : op.OnceOnly s)
    (h : ∀ a, OnceOnly s (next a)) : OnceOnly s (.ask op next)

/-- A request that has a script executed though it is marked: it is not once, and its path leads to
that script. -/
structure Setting.Repeats (s : Setting κ σ) (r : Run κ σ) (q : Request) (u : ScriptUnit κ) :
    Prop where
  again : q.once = false
  undisposed : r.isDisposed = false
  marked : r.included.has u = true
  found : ∃ r', Settles (fun n => Run.resolveScript s n q.path q.dir r) (.ok (some u), r')

/-- A request has no script executed that is marked. -/
def Setting.Fresh (s : Setting κ σ) (r : Run κ σ) (q : Request) : Prop := ∀ u, ¬ s.Repeats r q u

lemma fresh_of_once {q : Request} (h : q.once = true) : s.Fresh r q := by
  intro u hu
  rw [hu.again] at h
  cases h

/-! ### The end of such code -/

/-- A call comes to an end, and on the way to it scripts are executed once and the exception handler
stays. -/
def Ends {α : Type} (s : Setting κ σ) (r : Run κ σ)
    (call : Nat → Option (α × Variables × Run κ σ)) : Prop :=
  ∃ a vars r' us, Settles call (a, vars, r') ∧ Executes s r r' us ∧ r'.handler = r.handler

namespace Ends

variable {α β : Type} {call : Nat → Option (α × Variables × Run κ σ)}

lemma at_once {a : α} {vars : Variables} (h : ∀ n, call n = some (a, vars, r')) (hm : Moves s r r')
    (he : r'.executed = r.executed) (hh : r'.handler = r.handler) : Ends s r call :=
  ⟨a, vars, r', [], .of_forall h, .none hm he, hh⟩

lemma map {f : α × Variables × Run κ σ → β × Variables × Run κ σ} (hf : ∀ x, (f x).2.2 = x.2.2)
    (h : Ends s r call) : Ends s r fun n => (call n).map f := by
  obtain ⟨a, vars, r', us, hcall, h⟩ := h
  have hf : f (a, vars, r') = ((f (a, vars, r')).1, (f (a, vars, r')).2.1, r') :=
    Prod.ext rfl (Prod.ext rfl (hf (a, vars, r')))
  exact ⟨_, _, r', us, hf ▸ hcall.map f, h⟩

lemma after {whole : Nat → Option (β × Variables × Run κ σ)} (h : Ends s r call)
    (hw : ∀ a vars r' us, Executes s r r' us →
      ∃ rest, Ends s r' rest ∧ ∀ n, call n = some (a, vars, r') → whole n = rest n) :
    Ends s r whole := by
  obtain ⟨a, vars, r', us, hcall, h, hh⟩ := h
  obtain ⟨rest, ⟨b, vars', r'', vs, hrest, h', hh'⟩, hs⟩ := hw a vars r' us h
  exact ⟨b, vars', r'', us ++ vs, hcall.after hrest hs, h.trans h', hh'.trans hh⟩

end Ends

/-- Requests that repeat no script end where no more than so many scripts are unmarked. -/
def Setting.FreshEnds (s : Setting κ σ) (k : Nat) : Prop :=
  ∀ q vars r, s.Fresh r q → s.Answers q.path q.dir → Moment s r → (s.unmarked r).length ≤ k →
    Ends s r fun n => Run.includeScript s (s.invoke n) n q vars r

section Code

variable {k : Nat} (hends : s.FreshEnds k)
include hends

lemma ends_perform {op : Op κ σ} (hop : op.OnceOnly s) (vars : Variables) (hr : Moment s r)
    (hk : (s.unmarked r).length ≤ k) : Ends s r fun n => op.perform s (s.invoke n) n vars r := by
  cases hop with
  | assign f =>
    cases vars with
    | global => exact .at_once (fun _ => rfl) (.single (.change (.globals _))) rfl rfl
    | lent l => exact .at_once (fun _ => rfl) .refl rfl rfl
  | assignGlobals f => exact .at_once (fun _ => rfl) (.single (.change (.globals _))) rfl rfl
  | includeShared hq hp => exact hends _ vars r (fresh_of_once hq) hp hr hk
  | includeLending hq hp bindings =>
    exact (hends _ (.lent bindings) r (fresh_of_once hq) hp hr hk).map fun _ => rfl
  | includeGlobal hp require =>
    have h := hends { Request.of _ with once := true, require } .global r (fresh_of_once rfl) hp hr hk
    simp only [Op.perform, Run.includeGlobal, Option.map_map]
    exact h.map fun _ => rfl

lemma ends_exec (ht : s.app.scripts.Declared) {g : Guest κ σ} (hg : g.OnceOnly s)
    (context : Option (ScriptContext κ)) (vars : Variables) (hr : Moment s r)
    (hk : (s.unmarked r).length ≤ k) :
    Ends s r fun n => g.exec s (s.invoke n) n context vars r := by
  induction hg generalizing vars r with
  | done result => exact .at_once (fun _ => rfl) .refl rfl rfl
  | look h ih => exact ih _ vars hr hk
  | ask hop h ih =>
    refine (ends_perform hends hop vars hr hk).after fun a vars' r' us hus => ?_
    have hlen := hus.length_add_le ht
    refine ⟨_, ih a vars' (hr.later hus.moves) (by omega), fun n hn => ?_⟩
    rw [Guest.exec, hn]

/-- The code of a script, called one level further down. -/
lemma ends_invoke (ht : s.app.scripts.Declared) {code : κ} {input : Input}
    (hg : (s.code code input).OnceOnly s) (context : Option (ScriptContext κ)) (vars : Variables)
    (hr : Moment s r) (hk : (s.unmarked r).length ≤ k) :
    Ends s r fun n => s.invoke n code input context vars r := by
  obtain ⟨a, vars', r', us, hcall, h⟩ := ends_exec hends ht hg context vars hr hk
  exact ⟨a, vars', r', us, hcall.succ fun _ => rfl, h⟩

end Code

lemma includeRaw_frame (s : Setting κ σ) (q : Request) (r : Run κ σ) :
    (r.includeRaw s q).2.executed = r.executed ∧ (r.includeRaw s q).2.handler = r.handler := by
  have hread : (r.readRaw s (s.resolver.rawPath q.path q.dir)).2.executed = r.executed :=
    filterMap_record rfl _
  have hhandler : (r.readRaw s (s.resolver.rawPath q.path q.dir)).2.handler = r.handler := rfl
  rw [Run.includeRaw]
  generalize r.readRaw s (s.resolver.rawPath q.path q.dir) = x at hread hhandler ⊢
  obtain ⟨o, r₁⟩ := x
  have hrecord {e : Event κ} (w : σ) (he : e.script? = none) :
      (({ r₁ with world := w } : Run κ σ).record e).executed = r.executed :=
    (filterMap_record he _).trans hread
  cases o with
  | ok data => exact ⟨hrecord _ rfl, hhandler⟩
  | panic p => exact ⟨hread, hhandler⟩
  | error e =>
    dsimp only
    split
    case isTrue => exact ⟨hrecord _ rfl, hhandler⟩
    case isFalse => exact ⟨hrecord _ rfl, hhandler⟩

/-- A request either ends without an execution, or ends as the code of some script does. -/
lemma includeScript_cases {q : Request} (hp : s.Answers q.path q.dir) (vars : Variables)
    (hr : Moment s r) :
    (Ends s r fun n => Run.includeScript s (s.invoke n) n q vars r) ∨
    ∃ u w, u ∈ s.app.scripts.units ∧ r.isDisposed = false ∧
      (q.once = false ∨ r.included.has u = false) ∧
      Settles (fun n => Run.resolveScript s n q.path q.dir r) (.ok (some u), { r with world := w }) ∧
      ∀ x, Settles (fun n => s.invoke n u.body .none
          (some { unit := u, this := q.this, selfType := q.selfType }) vars
          (({ r with world := w } : Run κ σ).entered u)) x →
        Settles (fun n => Run.includeScript s (s.invoke n) n q vars r) x := by
  cases hd : r.isDisposed with
  | true =>
    exact .inl (.at_once (fun n => by rw [Run.includeScript, hd]; rfl) .refl rfl rfl)
  | false =>
    obtain ⟨found, r₁, hres, hmem⟩ := hp r hr
    obtain ⟨n, hn⟩ := hres.exists_eq
    obtain ⟨w, rfl⟩ := resolveScript_world hn
    have hworld : Moves s r { r with world := w } := .single (.change (.world w))
    have hquiet (o : Outcome Value) {r' : Run κ σ} (hm : Moves s { r with world := w } r')
        (he : r'.executed = r.executed) (hh : r'.handler = r.handler)
        (h : ∀ n, Run.resolveScript s n q.path q.dir r = some (found, { r with world := w }) →
          Run.includeScript s (s.invoke n) n q vars r = some (o, vars, r')) :
        Ends s r fun n => Run.includeScript s (s.invoke n) n q vars r :=
      ⟨o, vars, r', [], hres.imp h, .none (hworld.trans hm) he, hh⟩
    cases found with
    | error p =>
      refine .inl (hquiet (.panic p) .refl rfl rfl fun n hn => ?_)
      rw [Run.includeScript, hd, hn]
      rfl
    | ok found =>
      cases found with
      | none =>
        obtain ⟨hexecuted, hhandler⟩ := includeRaw_frame s q { r with world := w }
        have hraw := (stretch_includeRaw (s := s) (r := { r with world := w }) hd q).moves
        refine .inl (hquiet (Run.includeRaw s q { r with world := w }).1 hraw hexecuted
          hhandler fun n hn => ?_)
        rw [Run.includeScript, hd, hn]
        rfl
      | some u =>
        by_cases hu : q.once = false ∨ r.included.has u = false
        · refine .inr ⟨u, w, hmem u rfl, rfl, hu, hres, fun x hx => hres.after hx fun n hn => ?_⟩
          rw [includeScript_eq_execute hd hn hu]
          rfl
        · obtain ⟨hq, hu⟩ := not_or.1 hu
          refine .inl (hquiet (.ok (.bool true)) .refl rfl rfl fun n hn => ?_)
          exact includeScript_of_has hd (eq_true_of_ne_false hq) hn (eq_true_of_ne_false hu)

theorem freshEnds (ht : s.app.scripts.Declared)
    (hcode : ∀ u ∈ s.app.scripts.units, (s.code u.body .none).OnceOnly s) (k : Nat) :
    s.FreshEnds k := by
  -- on the number of unmarked scripts: executing one marks it before its code runs
  induction k using Nat.strongRecOn with
  | ind k ih =>
    intro q vars r hq hp hr hk
    rcases includeScript_cases hp vars hr with h | ⟨u, w, hu, hd, hnew, hfound, hbody⟩
    · exact h
    · have hnew : r.included.has u = false := by
        rcases hnew with hplain | hnew
        · exact Bool.eq_false_iff.2 fun hmarked => hq u ⟨hplain, hd, hmarked, _, hfound⟩
        · exact hnew
      have henter := executes_entered (w := w) hd (Setting.mem_unmarked.2 ⟨hu, hnew⟩)
      have hlen := henter.length_add_le ht
      have hless : (s.unmarked (({ r with world := w } : Run κ σ).entered u)).length < k := by
        rw [List.length_singleton] at hlen
        omega
      obtain ⟨o, vars', r', us, hcall, hus, hh⟩ := ends_invoke (ih _ hless) ht (hcode u hu)
        (some { unit := u, this := q.this, selfType := q.selfType }) vars
        (hr.later henter.moves) (Nat.le_refl _)
      refine ⟨o, vars', r', u :: us, hbody _ hcall, henter.trans hus, hh.trans ?_⟩
      exact (entered_spec (r := { r with world := w }) s u hd).2.2.2

/-! ### The entry script -/

/-- The run that the exception handler is asked on. -/
def Run.asking (e : RunError) (r : Run κ σ) : Run κ σ :=
  { r with handler := none }.record (.handled e)

/-- The exception handler is asked once, and what comes of it is the same run but for its
handler. -/
lemma settles_offerError {e : RunError} {h : κ} (hh : r.handler = some h) {o : Outcome Value}
    {vars : Variables}
    (hcall : Settles (fun n => s.invoke n h (.caught e) none .global (r.asking e)) (o, vars, r')) :
    ∃ o' handler, Settles (fun n => Run.offerError (s.invoke n) e r)
      (o', { r' with handler := handler }) := by
  -- only the answer of the handler matters
  have hanswer : ∃ o' handler, Run.offerError (fun _ _ _ _ _ => some (o, vars, r')) e r =
      some (o', { r' with handler := handler }) := by
    rw [Run.offerError, hh]
    cases o with
    | panic p => exact ⟨_, r'.handler, rfl⟩
    | ok v => exact ⟨_, _, rfl⟩
    | error e' => exact ⟨_, _, rfl⟩
  obtain ⟨o', handler, hanswer⟩ := hanswer
  refine ⟨o', handler, hcall.imp fun n hn => ?_⟩
  rw [Run.asking] at hn
  rw [← hanswer, Run.offerError, Run.offerError, hh]
  simp only [hn]

section Entry

variable {path : String} {o : Outcome Value}

/-- Without an error, or without a handler, the entry script is all. -/
lemma settles_runEntry (h : (∀ e, o ≠ .error e) ∨ r'.handler = none)
    (hcall : Settles (fun n => Run.includeGlobal s (s.invoke n) n path true true r) (o, r')) :
    Settles (fun n => Run.runEntry s (s.invoke n) n path r) (o, r') := by
  refine hcall.imp fun n hn => ?_
  rw [Run.runEntry, hn]
  cases o with
  | error e =>
    have hh : r'.handler = none := h.resolve_left fun hne => hne e rfl
    simp only [Run.offerError, hh]
    rfl
  | ok v => rfl
  | panic p => rfl

/-- An error that the entry script leaves goes to the handler, and then that is all. -/
lemma settles_runEntry_of_handler {e : RunError} {h : κ} (hh : r'.handler = some h)
    {o : Outcome Value} {vars : Variables}
    (hcall : Settles (fun n => Run.includeGlobal s (s.invoke n) n path true true r) (.error e, r'))
    (hasked : Settles (fun n => s.invoke n h (.caught e) none .global (r'.asking e))
      (o, vars, r'')) :
    ∃ o' handler, Settles (fun n => Run.runEntry s (s.invoke n) n path r)
      (o', { r'' with handler := handler }) := by
  obtain ⟨taken, handler, hoffer⟩ := settles_offerError hh hasked
  have htaken := hoffer.map fun a =>
    (a.1.bind fun taken => if taken then Outcome.ok Value.null else .error e, a.2)
  refine ⟨_, handler, hcall.after htaken fun n hn => ?_⟩
  rw [Run.runEntry, hn]

end Entry

/-! ### Whole inclusions -/

section Whole

variable (ht : s.app.scripts.Declared)
  (hcode : ∀ u ∈ s.app.scripts.units, (s.code u.body .none).OnceOnly s) (hr : Moment s r)
include ht hcode hr

/-- The script that a request repeats is executed first, and no other script that is marked. -/
lemma includeScript_repeats {q : Request} {u : ScriptUnit κ} (hp : s.Answers q.path q.dir)
    (hq : s.Repeats r q u) (vars : Variables) :
    u ∈ s.app.scripts.units ∧ ∃ o vars' r' us,
      Settles (fun n => Run.includeScript s (s.invoke n) n q vars r) (o, vars', r') ∧
      r'.executed = r.executed ++ u.index :: us.map (·.index) ∧
      (u.index :: us.map (·.index)).Nodup ∧ us ⊆ s.unmarked r := by
  have hd := hq.undisposed
  obtain ⟨r₁, hres⟩ := hq.found
  have hu : u ∈ s.app.scripts.units := by
    obtain ⟨found, r₂, hres', hmem⟩ := hp r hr
    have hfound := congrArg Prod.fst (hres.unique hres')
    exact hmem u hfound.symm
  obtain ⟨n, hn⟩ := hres.exists_eq
  obtain ⟨w, rfl⟩ := resolveScript_world hn
  have hworld : Moves s r { r with world := w } := .single (.change (.world w))
  obtain ⟨henter, hmarked, hevents, -⟩ := entered_spec (r := { r with world := w }) s u hd
  have hmoves := hworld.trans henter
  obtain ⟨o, vars', r', us, hcall, hus, -⟩ := ends_invoke (freshEnds ht hcode _) ht (hcode u hu)
    (some { unit := u, this := q.this, selfType := q.selfType }) vars (hr.later hmoves)
    (Nat.le_refl _)
  refine ⟨hu, o, vars', r', us, hres.after hcall fun n hn => ?_, ?_, ?_,
    List.Subset.trans hus.unmarked (Moves.unmarked_subset hmoves)⟩
  · rw [includeScript_eq_execute hd hn (.inl hq.again)]
    rfl
  · rw [hus.executed, Run.executed, hevents, List.filterMap_append, List.append_assoc]
    rfl
  · refine List.nodup_cons.2 ⟨fun hmem => ?_, hus.once⟩
    obtain ⟨v, hv, hindex⟩ := List.mem_map.1 hmem
    exact Setting.index_ne_of_mem_unmarked hmarked (hus.unmarked hv) hindex

lemma includeGlobal_executes {path : String} (hp : s.Answers path none) :
    ∃ o r' us, Settles (fun n => Run.includeGlobal s (s.invoke n) n path true true r) (o, r') ∧
      Executes s r r' us ∧ r'.handler = r.handler := by
  obtain ⟨o, vars, r', us, hcall, h⟩ := freshEnds ht hcode _
    { Request.of path with once := true, require := true } .global r (fresh_of_once rfl) hp hr
    (Nat.le_refl _)
  exact ⟨o, r', us, hcall.map fun a => (a.1, a.2.2), h⟩

/-- With a handler that includes once as well, the whole run of the entry script does. -/
lemma runEntry_executes {path : String} (hp : s.Answers path none)
    (hhandler : ∀ h, r.handler = some h → ∀ e, (s.code h (.caught e)).OnceOnly s) :
    ∃ o r' us, Settles (fun n => Run.runEntry s (s.invoke n) n path r) (o, r') ∧
      Executes s r r' us := by
  obtain ⟨o, r₁, us, hcall, hus, hh⟩ := includeGlobal_executes ht hcode hr hp
  cases hs : r.handler with
  | none => exact ⟨o, r₁, us, settles_runEntry (.inr (hh.trans hs)) hcall, hus⟩
  | some h =>
    cases o with
    | ok v => exact ⟨_, r₁, us, settles_runEntry (.inl (by simp)) hcall, hus⟩
    | panic p => exact ⟨_, r₁, us, settles_runEntry (.inl (by simp)) hcall, hus⟩
    | error e =>
      have hask : Executes s r₁ (r₁.asking e) [] :=
        .none (.tail (.single (.change (.handler none))) (.change (.note _ rfl)))
          (filterMap_record rfl _)
      obtain ⟨o, vars, r₂, vs, hasked, hvs, -⟩ := ends_invoke (freshEnds ht hcode _) ht
        (hhandler h hs e) none .global (hr.later (hus.moves.trans hask.moves)) (Nat.le_refl _)
      obtain ⟨o', handler, hwhole⟩ := settles_runEntry_of_handler (hh.trans hs) hcall hasked
      exact ⟨o', _, _, hwhole,
        ((hus.trans hask).trans hvs).trans (.none (.single (.change (.handler handler))) rfl)⟩

end Whole

/-- Scripts that only access variables and include once: at every moment every inclusion comes to an
end, and so does the run of an entry script, as far as the exception handler does. A script is
executed at most once on the way, and at most as many are as were not marked before. Only a request
that repeats a script adds one execution, that of this script. -/
theorem once_only_ends (ht : s.app.scripts.Declared)
    (hcode : ∀ u ∈ s.app.scripts.units, (s.code u.body .none).OnceOnly s) (hr : Moment s r) :
    (∀ q vars, s.Answers q.path q.dir → s.Fresh r q → ∃ o vars' r' us,
      Settles (fun n => Run.includeScript s (s.invoke n) n q vars r) (o, vars', r') ∧
      Executes s r r' us ∧ us.length ≤ (s.unmarked r).length) ∧
    (∀ q vars u, s.Answers q.path q.dir → s.Repeats r q u →
      u ∈ s.app.scripts.units ∧ ∃ o vars' r' us,
        Settles (fun n => Run.includeScript s (s.invoke n) n q vars r) (o, vars', r') ∧
        r'.executed = r.executed ++ u.index :: us.map (·.index) ∧
        (u.index :: us.map (·.index)).Nodup ∧ us ⊆ s.unmarked r ∧
        us.length ≤ (s.unmarked r).length) ∧
    (∀ path, s.Answers path none → ∃ o r' us,
      Settles (fun n => Run.includeGlobal s (s.invoke n) n path true true r) (o, r') ∧
      Executes s r r' us ∧ us.length ≤ (s.unmarked r).length ∧
      ((∀ e, o ≠ .error e) ∨ r.handler = none →
        Settles (fun n => Run.runEntry s (s.invoke n) n path r) (o, r')) ∧
      ∀ e h, o = .error e → r.handler = some h → ∀ o₁ vars r₁,
        Settles (fun n => s.invoke n h (.caught e) none .global (r'.asking e)) (o₁, vars, r₁) →
        ∃ o₂ handler, Settles (fun n => Run.runEntry s (s.invoke n) n path r)
          (o₂, { r₁ with handler := handler })) ∧
    (∀ path, s.Answers path none →
      (∀ h, r.handler = some h → ∀ e, (s.code h (.caught e)).OnceOnly s) → ∃ o r' us,
        Settles (fun n => Run.runEntry s (s.invoke n) n path r) (o, r') ∧
        Executes s r r' us ∧ us.length ≤ (s.unmarked r).length) := by
  refine ⟨?_, ?_, ?_, ?_⟩
  · intro q vars hp hq
    obtain ⟨o, vars', r', us, hcall, hus, -⟩ :=
      freshEnds ht hcode _ q vars r hq hp hr (Nat.le_refl _)
    exact ⟨o, vars', r', us, hcall, hus, hus.length_le⟩
  · intro q vars u hp hq
    obtain ⟨hu, o, vars', r', us, hcall, hexecuted, honce, hunmarked⟩ :=
      includeScript_repeats ht hcode hr hp hq vars
    exact ⟨hu, o, vars', r', us, hcall, hexecuted, honce, hunmarked,
      ((honce.of_cons.of_map _).subperm hunmarked).length_le⟩
  · intro path hp
    obtain ⟨o, r', us, hcall, hus, hh⟩ := includeGlobal_executes ht hcode hr hp
    refine ⟨o, r', us, hcall, hus, hus.length_le, fun h => ?_, ?_⟩
    · exact settles_runEntry (h.imp_right hh.trans) hcall
    · rintro e h rfl hhandler o₁ vars r₁ hasked
      exact settles_runEntry_of_handler (hh.trans hhandler) hcall hasked
  · intro path hp hhandler
    obtain ⟨o, r', us, hwhole, hus⟩ := runEntry_executes ht hcode hr hp hhandler
    exact ⟨o, r', us, hwhole, hus, hus.length_le⟩

/-! ### Scripts that include each other -/

lemma answers_mutual {path : String} (h : Path.cutScheme? path = none) :
    Setting.mutual.Answers path none :=
  answers_of_unhandled fun _ _ hcut => nomatch h.symm.trans hcut

lemma onceOnly_mutual (first : Bool) : (Setting.mutual.code first .none).OnceOnly Setting.mutual := by
  cases first with
  | true =>
    exact .ask (.includeGlobal (answers_mutual rfl) true) fun _ =>
      .ask (.includeGlobal (answers_mutual rfl) true) fun _ => .done _
  | false => exact .ask (.includeGlobal (answers_mutual rfl) true) fun _ => .done _

/-- The two scripts include themselves and each other, and the second one fails. -/
theorem once_only_ends_mutual :
    ∃ o r' us, Settles (fun n => Run.runEntry Setting.mutual (Setting.mutual.invoke n) n "a"
        (Setting.mutual.start none 0)) (o, r') ∧
      Executes Setting.mutual (Setting.mutual.start none 0) r' us ∧ us.length ≤ 2 := by
  have hstart : Moment Setting.mutual (Setting.mutual.start none 0) := ⟨none, 0, .refl⟩
  exact (once_only_ends declared_mutual (fun u _ => onceOnly_mutual u.body) hstart).2.2.2 "a"
    (answers_mutual rfl) nofun

/-- The run after the first script has been executed, and in it the second one. -/
def Setting.mutualRun : Run Bool Nat :=
  ((mutual.run 4 (.ask (.includeGlobal "a" true true) .done) (mutual.start none 0)).map
    (·.2)).getD (mutual.start none 0)

lemma hosted_mutualRun : Hosted Setting.mutual Setting.mutualRun := by
  have h : Setting.mutual.run 4 (.ask (.includeGlobal "a" true true) .done)
      (Setting.mutual.start none 0) = some (.ok .null, Setting.mutualRun) := rfl
  exact .run (.start none 0) h

/-- No script is left without a mark, and still a request that is not once has one executed. -/
theorem execution_beyond_unmarked :
    (∀ u ∈ Setting.mutual.app.scripts.units,
      (Setting.mutual.code u.body .none).OnceOnly Setting.mutual) ∧
    Moment Setting.mutual Setting.mutualRun ∧
    Setting.mutual.unmarked Setting.mutualRun = [] ∧
    ∃ o vars r', Settles (fun n => Run.includeScript Setting.mutual (Setting.mutual.invoke n) n
        (.of "a") .global Setting.mutualRun) (o, vars, r') ∧
      r'.executed = Setting.mutualRun.executed ++ [0] := by
  have hcode : ∀ u ∈ Setting.mutual.app.scripts.units,
      (Setting.mutual.code u.body .none).OnceOnly Setting.mutual := fun u _ => onceOnly_mutual u.body
  have hr := hosted_mutualRun.moment.1
  have hnone : Setting.mutual.unmarked Setting.mutualRun = [] := rfl
  have hrepeats : Setting.mutual.Repeats Setting.mutualRun (.of "a") ⟨0, "a", true⟩ :=
    ⟨rfl, rfl, rfl, Setting.mutualRun, .of_forall fun n => by rw [Run.resolveScript]; rfl⟩
  obtain ⟨-, o, vars, r', us, hcall, hexecuted, -, hus⟩ := includeScript_repeats declared_mutual
    hcode hr (answers_mutual rfl) hrepeats .global
  rw [hnone, List.subset_nil] at hus
  rw [hus] at hexecuted
  exact ⟨hcode, hr, hnone, o, vars, r', hcall, hexecuted⟩

end ScriptRun
