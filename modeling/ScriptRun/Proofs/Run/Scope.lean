import ScriptRun.Proofs.Run.Errand

/-!
# Scripts inside of scripts

A script that includes another one from its scope waits for it. However deep such inclusions nest,
they come to one machine with a stack of scripts that wait and one store of variables: the innermost
script reads and writes that store, and what it leaves there is what the scripts that wait find when
they go on. The machine has one object and one type for all of its scripts, and one script that it
looks up paths for, the innermost.

A script that fails ends like any other, so its failure is what the script that waits goes on with.
-/

namespace ScriptRun

open Relation

variable {κ σ : Type} {s : Setting κ σ} {r r' r₁ : Run κ σ}

/-! ### Requests from a scope -/

/-- A request as a script's scope makes it: for a path from the directory of the script, in its
context. -/
structure Request.Inherits (q : Request) (u : ScriptUnit κ) (this : Option Value)
    (selfType : Option TypeDecl) : Prop where
  dir : q.dir = some u.directory
  this : q.this = this
  selfType : q.selfType = selfType

/-- What a script requests from its scope inherits from it, and nothing else does. -/
lemma Request.inherits_iff {q : Request} {u : ScriptUnit κ} {this : Option Value}
    {selfType : Option TypeDecl} :
    q.Inherits u this selfType ↔
      ∃ path once require, q = { Request.within ⟨u, this, selfType⟩ path with once, require } := by
  constructor
  · obtain ⟨path, dir, once, require, this', selfType'⟩ := q
    rintro ⟨hdir, hthis, hself⟩
    cases hdir
    cases hthis
    cases hself
    exact ⟨path, once, require, rfl⟩
  · rintro ⟨path, once, require, rfl⟩
    exact ⟨rfl, rfl, rfl⟩

/-- An operation that reads or writes the variables of the code that asks. -/
def Op.touchesVariables : Op κ σ → Bool
  | .assign _ | .includeShared _ => true
  | _ => false

/-! ### The machine -/

/-- The scripts that wait, the innermost first, and how each goes on. -/
abbrev Waiting (κ σ : Type) := List (ScriptUnit κ × (Outcome Value → Guest κ σ))

/-- Scripts that include each other from their scopes. -/
structure Nest (κ σ : Type) where
  waiting : Waiting κ σ
  /-- The script that is executed, and what is left of its code. -/
  unit : ScriptUnit κ
  code : Guest κ σ
  vars : Variables
  run : Run κ σ

namespace Nest

/-- One step of scripts that share an object and a type. -/
inductive Step (s : Setting κ σ) (this : Option Value) (selfType : Option TypeDecl) :
    Nest κ σ → Nest κ σ → Prop
  | look {waiting : Waiting κ σ} {u : ScriptUnit κ} {next : View κ σ → Guest κ σ}
    {vars : Variables} {r : Run κ σ} :
    Step s this selfType ⟨waiting, u, .look next, vars, r⟩
      ⟨waiting, u, next (Guest.view (some ⟨u, this, selfType⟩) vars r), vars, r⟩
  | assign {waiting : Waiting κ σ} {u : ScriptUnit κ} {f : Bindings → Bindings}
    {next : Unit → Guest κ σ} {lent : Bindings} {r : Run κ σ} :
    Step s this selfType ⟨waiting, u, .ask (.assign f) next, .lent lent, r⟩
      ⟨waiting, u, next (), .lent (f lent), r⟩
  | assignGlobal {waiting : Waiting κ σ} {u : ScriptUnit κ} {f : Bindings → Bindings}
    {next : Unit → Guest κ σ} {r : Run κ σ} :
    Step s this selfType ⟨waiting, u, .ask (.assign f) next, .global, r⟩
      ⟨waiting, u, next (), .global, { r with globals := f r.globals }⟩
  /-- A script is included from the scope, and begins on the same variables. -/
  | enter {waiting : Waiting κ σ} {u v : ScriptUnit κ} {q : Request}
    {next : Outcome Value → Guest κ σ} {vars : Variables} {r r₁ : Run κ σ} {fuel : Nat}
    (hq : q.Inherits u this selfType) (hd : r.isDisposed = false)
    (hres : Run.resolveScript s fuel q.path (some u.directory) r = some (.ok (some v), r₁))
    (hnew : q.once = false ∨ r.included.has v = false) :
    Step s this selfType ⟨waiting, u, .ask (.includeShared q) next, vars, r⟩
      ⟨(u, next) :: waiting, v, s.code v.body .none, vars, r₁.entered v⟩
  /-- A script has ended, and the one that waits for it goes on with the variables as they are. -/
  | leave {waiting : Waiting κ σ} {u v : ScriptUnit κ} {next : Outcome Value → Guest κ σ}
    {o : Outcome Value} {vars : Variables} {r : Run κ σ} :
    Step s this selfType ⟨(u, next) :: waiting, v, .done o, vars, r⟩ ⟨waiting, u, next o, vars, r⟩
  /-- An inclusion from the scope executes no script, whatever would become of one. -/
  | skip {waiting : Waiting κ σ} {u : ScriptUnit κ} {q : Request}
    {next : Outcome Value → Guest κ σ} {o : Outcome Value} {vars : Variables} {r r' : Run κ σ}
    {fuel : Nat} (hq : q.Inherits u this selfType)
    (h : ∀ call, Run.includeScript s call fuel q vars r = some (o, vars, r')) :
    Step s this selfType ⟨waiting, u, .ask (.includeShared q) next, vars, r⟩
      ⟨waiting, u, next o, vars, r'⟩
  /-- An inclusion that the script has changed the directory or the context of. -/
  | astray {waiting : Waiting κ σ} {u : ScriptUnit κ} {q : Request}
    {next : Outcome Value → Guest κ σ} {o : Outcome Value} {vars vars' : Variables}
    {r r' : Run κ σ} {depth fuel : Nat} (hq : ¬q.Inherits u this selfType)
    (h : Run.includeScript s (s.invoke depth) fuel q vars r = some (o, vars', r')) :
    Step s this selfType ⟨waiting, u, .ask (.includeShared q) next, vars, r⟩
      ⟨waiting, u, next o, vars', r'⟩
  /-- Anything else leaves the variables of the code that asks as they are. -/
  | aside {waiting : Waiting κ σ} {u : ScriptUnit κ} {op : Op κ σ} {next : op.Answer → Guest κ σ}
    {a : op.Answer} {vars : Variables} {r r' : Run κ σ} {depth fuel : Nat}
    (hop : op.touchesVariables = false)
    (h : op.perform s (s.invoke depth) fuel vars r = some (a, vars, r')) :
    Step s this selfType ⟨waiting, u, .ask op next, vars, r⟩ ⟨waiting, u, next a, vars, r'⟩

/-- Any number of steps. -/
abbrev Steps (s : Setting κ σ) (this : Option Value) (selfType : Option TypeDecl) :
    Nest κ σ → Nest κ σ → Prop := ReflTransGen (Step s this selfType)

end Nest

/-! ### Operations -/

section Operations

variable {call : Invoke κ σ} {fuel : Nat} {vars vars' : Variables}

/-- Most operations give the code that asks its variables back as they were. -/
lemma perform_vars {op : Op κ σ} {a : op.Answer} (hop : op.touchesVariables = false)
    (h : op.perform s call fuel vars r = some (a, vars', r')) : vars' = vars := by
  cases op with
  | assign | includeShared => cases hop
  | call | resolveType | needType | ensureType | resolveScript | includeLending | includeGlobal
  | runEntry | offerError | dispose =>
    obtain ⟨x, -, heq⟩ := Option.map_eq_some_iff.1 h
    cases heq
    rfl
  | _ => cases h; rfl

/-- An inclusion executes no script, or the one that its path leads to. -/
lemma skips_or_executes {q : Request} {o : Outcome Value}
    (h : Run.includeScript s call fuel q vars r = some (o, vars', r')) :
    (vars' = vars ∧ r'.globals = r.globals ∧
        ∀ call, Run.includeScript s call fuel q vars r = some (o, vars, r')) ∨
      ∃ u r₁, r.isDisposed = false ∧
        Run.resolveScript s fuel q.path q.dir r = some (.ok (some u), r₁) ∧
        (q.once = false ∨ r.included.has u = false) ∧
        call u.body .none (some ⟨u, q.this, q.selfType⟩) vars (r₁.entered u) =
          some (o, vars', r') := by
  simp only [← Errand.run_includeScript] at h ⊢
  rcases Errand.includeScript_cases s fuel q vars r with
    herrand | ⟨o₁, r₁, hglobals, herrand⟩ | ⟨u, r₁, hd, hres, hnew, herrand⟩
  · rw [herrand] at h
    cases h
  · rw [herrand] at h ⊢
    cases h
    exact .inl ⟨rfl, hglobals, fun call => rfl⟩
  · rw [herrand, Errand.run_call] at h
    exact .inr ⟨u, r₁, hd, hres, hnew, (Option.bind_fun_some _).symm.trans h⟩

end Operations

/-! ### Executions are runs of the machine -/

section Executions

variable {this : Option Value} {selfType : Option TypeDecl} {u : ScriptUnit κ}
  {vars vars' : Variables} {o : Outcome Value} {depth fuel : Nat}

/-- Calls of scripts are runs of the machine. -/
def Nests (s : Setting κ σ) (call : Invoke κ σ) : Prop :=
  ∀ {u : ScriptUnit κ} {this selfType vars r o vars' r'} (waiting : Waiting κ σ),
    call u.body .none (some ⟨u, this, selfType⟩) vars r = some (o, vars', r') →
      Nest.Steps s this selfType ⟨waiting, u, s.code u.body .none, vars, r⟩
        ⟨waiting, u, .done o, vars', r'⟩

lemma steps_includeShared (hcall : Nests s (s.invoke depth)) {q : Request}
    {next : Outcome Value → Guest κ σ}
    (h : Run.includeScript s (s.invoke depth) fuel q vars r = some (o, vars', r'))
    (waiting : Waiting κ σ) :
    Nest.Steps s this selfType ⟨waiting, u, .ask (.includeShared q) next, vars, r⟩
      ⟨waiting, u, next o, vars', r'⟩ := by
  by_cases hq : q.Inherits u this selfType
  · rcases skips_or_executes h with ⟨rfl, -, hskip⟩ | ⟨v, r₁, hd, hres, hnew, hexec⟩
    · exact .single (.skip hq hskip)
    · -- the script runs on top of the one that waits, and then that goes on
      have hinner := hcall ((u, next) :: waiting) hexec
      rw [hq.this, hq.selfType] at hinner
      rw [hq.dir] at hres
      exact .head (.enter hq hd hres hnew) (hinner.tail .leave)
  · exact .single (.astray hq h)

lemma steps_exec (hcall : Nests s (s.invoke depth)) {g : Guest κ σ}
    (h : g.exec s (s.invoke depth) fuel (some ⟨u, this, selfType⟩) vars r = some (o, vars', r'))
    (waiting : Waiting κ σ) :
    Nest.Steps s this selfType ⟨waiting, u, g, vars, r⟩ ⟨waiting, u, .done o, vars', r'⟩ := by
  induction g generalizing vars r with
  | done result =>
    cases h
    exact .refl
  | look next ih => exact .head .look (ih _ h)
  | ask op next ih =>
    rw [Guest.exec] at h
    cases hop : op.perform s (s.invoke depth) fuel vars r with
    | none =>
      rw [hop] at h
      cases h
    | some x =>
      obtain ⟨a, vars₁, r₁⟩ := x
      rw [hop] at h
      have hrest := ih a h
      cases htouch : op.touchesVariables with
      | false =>
        obtain rfl := perform_vars htouch hop
        exact .head (.aside htouch hop) hrest
      | true =>
        cases op with
        | assign f =>
          cases vars with
          | global =>
            cases hop
            exact .head .assignGlobal hrest
          | lent l =>
            cases hop
            exact .head .assign hrest
        | includeShared q => exact (steps_includeShared hcall hop waiting).trans hrest
        | _ => cases htouch

/-- However deep scripts include each other, what they do is what the machine does. -/
theorem nests_invoke (s : Setting κ σ) (depth : Nat) : Nests s (s.invoke depth) := by
  -- on the depth: the scripts that a script includes are called one level further down
  induction depth with
  | zero =>
    intro u this selfType vars r o vars' r' waiting h
    cases h
  | succ depth ih =>
    intro u this selfType vars r o vars' r' waiting h
    exact steps_exec ih h waiting

end Executions

end ScriptRun
