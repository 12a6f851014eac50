import ScriptRun.Proofs.Run.Deeds
import ScriptRun.Proofs.Run.Progress
import ScriptRun.Proofs.Run.Scope

/-!
# The variables of scripts

Scripts that include each other from their scopes work on the same variables, inside of the same
object and the same type, and look paths up from their own directories. All that is executed on the
global variables works on one store of them. What is executed on lent variables does not get at that
store unless some code goes for it. Whether scripts fail makes no difference.
-/

namespace ScriptRun

variable {κ σ : Type} {s : Setting κ σ} {r r' : Run κ σ}

/-- What code finds in the variables that it works on. -/
def Deed.finds (d : Deed κ σ) : Bindings := (Guest.view d.context d.vars d.run).vars

lemma Deed.finds_global {d : Deed κ σ} (h : d.vars.isGlobal = true) : d.finds = d.run.globals := by
  obtain ⟨context, vars, r, op⟩ := d
  cases vars with
  | global => rfl
  | lent l => cases h

section Inclusions

variable {depth fuel : Nat} {q : Request} {vars vars' : Variables} {o : Outcome Value}

/-- An inclusion executes no script, or it is a run of the machine of nested scripts. -/
lemma nest_includeScript
    (h : Run.includeScript s (s.invoke depth) fuel q vars r = some (o, vars', r')) :
    (vars' = vars ∧ r'.globals = r.globals ∧
        ∀ call, Run.includeScript s call fuel q vars r = some (o, vars, r')) ∨
      ∃ u r₁, Run.resolveScript s fuel q.path q.dir r = some (.ok (some u), r₁) ∧
        (r₁.entered u).globals = r.globals ∧
        Nest.Steps s q.this q.selfType ⟨[], u, s.code u.body .none, vars, r₁.entered u⟩
          ⟨[], u, .done o, vars', r'⟩ := by
  rcases skips_or_executes h with hskip | ⟨u, r₁, hd, hres, -, hexec⟩
  · exact .inl hskip
  · refine .inr ⟨u, r₁, hres, ?_, nests_invoke s depth [] hexec⟩
    obtain ⟨w, rfl⟩ := resolveScript_world hres
    exact Run.globals_entered u hd

/-- An inclusion has an account. -/
lemma told_includeScript
    (h : Run.includeScript s (s.invoke depth) fuel q vars r = some (o, vars', r')) :
    ∃ ds, (Errand.includeScript s fuel q vars r).tell (s.account depth) =
        some (ds, o, vars', r') ∧
      vars'.isGlobal = vars.isGlobal ∧ Timely r.globals ds r'.globals ∧
      (vars.isGlobal = false → Confined ds) := by
  rw [← Errand.run_includeScript, ← Errand.map_tell (tells_invoke s depth)] at h
  obtain ⟨⟨ds, x⟩, htell, rfl⟩ := Option.map_eq_some_iff.1 h
  have hkeeps : (Errand.includeScript s fuel q vars r).Keeps (vars.isGlobal = false)
      (Errand.LeavesOn vars) r.globals := Errand.keeps_includeScript q r id
  obtain ⟨g, htimely, ⟨hvars, rfl⟩, hconfined⟩ := hkeeps.tell (keepsTime_account s depth) htell
  exact ⟨ds, htell, hvars, htimely, hconfined⟩

lemma includeScript_of_includeGlobal {path : String} {once require : Bool}
    (h : Run.includeGlobal s (s.invoke depth) fuel path once require r = some (o, r')) :
    Run.includeScript s (s.invoke depth) fuel { Request.of path with once, require } .global r =
      some (o, .global, r') := by
  obtain ⟨⟨o', vars', r''⟩, hinclude, heq⟩ := Option.map_eq_some_iff.1 h
  cases heq
  obtain ⟨-, -, hvars, -⟩ := told_includeScript hinclude
  cases vars' with
  | global => exact hinclude
  | lent l => cases hvars

end Inclusions

/-- Inclusions from scopes, however they nest, are runs of one machine with one store of variables,
one object and one type, that looks paths up from the directory of the innermost script. Inclusions
on the global variables work on one store of these: whatever is executed, everything that is done
meanwhile, by whatever code and however deep, finds there what has been done to it before, and so
does what comes after. An inclusion on lent variables leaves the global ones alone unless code
reaches out for them. The outcome may be any, a failure too. -/
theorem variables_shared_and_isolated (s : Setting κ σ) (depth fuel : Nat) :
    (∀ {q vars r o vars' r'},
      Run.includeScript s (s.invoke depth) fuel q vars r = some (o, vars', r') →
        (vars' = vars ∧ r'.globals = r.globals ∧
            ∀ call, Run.includeScript s call fuel q vars r = some (o, vars, r')) ∨
          ∃ u r₁, Run.resolveScript s fuel q.path q.dir r = some (.ok (some u), r₁) ∧
            (r₁.entered u).globals = r.globals ∧
            Nest.Steps s q.this q.selfType ⟨[], u, s.code u.body .none, vars, r₁.entered u⟩
              ⟨[], u, .done o, vars', r'⟩) ∧
    (∀ {path once require r o r'},
      Run.includeGlobal s (s.invoke depth) fuel path once require r = some (o, r') →
        Run.includeScript s (s.invoke depth) fuel { Request.of path with once, require } .global r =
          some (o, .global, r')) ∧
    (∀ {g : Guest κ σ} {context vars r o vars' r'},
      g.exec s (s.invoke depth) fuel context vars r = some (o, vars', r') →
        ∃ ds, g.tell s (s.account depth) fuel context vars r = some (ds, o, vars', r') ∧
          r'.globals = written ds r.globals ∧
          ∀ before d after, ds = before ++ d :: after →
            d.run.globals = written before r.globals ∧
            (d.vars.isGlobal = true → d.finds = written before r.globals)) ∧
    ∀ {q lent r o vars' r'},
      Run.includeScript s (s.invoke depth) fuel q (.lent lent) r = some (o, vars', r') →
        ∃ ds, (Errand.includeScript s fuel q (.lent lent) r).tell (s.account depth) =
            some (ds, o, vars', r') ∧
          (r'.globals = r.globals ∨ ∃ d ∈ ds, d.reachesOut = true) := by
  refine ⟨nest_includeScript, includeScript_of_includeGlobal, ?_, ?_⟩
  · intro g context vars r o vars' r' h
    rw [← Guest.map_tell (tells_invoke s depth)] at h
    obtain ⟨⟨ds, x⟩, htell, rfl⟩ := Option.map_eq_some_iff.1 h
    have htimely := (recounts_tell (keepsTime_account s depth) htell).timely
    refine ⟨ds, htell, htimely.eq_written, ?_⟩
    rintro before d after rfl
    refine ⟨htimely.finds, fun hvars => ?_⟩
    rw [Deed.finds_global hvars]
    exact htimely.finds
  · intro q lent r o vars' r' h
    obtain ⟨ds, htell, -, htimely, hconfined⟩ := told_includeScript h
    refine ⟨ds, htell, ?_⟩
    by_cases hreach : ∃ d ∈ ds, d.reachesOut = true
    · exact .inr hreach
    · have hnone : ∀ d ∈ ds, d.reachesOut = false := by simpa using hreach
      left
      rw [htimely.eq_written]
      exact (hconfined rfl).written_eq hnone

/-! ### A script that fails inside of another one -/

/-- A script that sets a variable and includes another one next to it, which copies the variable and
fails. -/
def Setting.nested : Setting Bool Nat :=
  { Setting.plain { Application.empty with
      scripts := ⟨[⟨0, "lib/main", true⟩, ⟨1, "lib/inner", false⟩]⟩ } with
    code := fun main _ =>
      if main then
        .ask (.assign (·.insert "x" (.int 1))) fun _ =>
          .ask (.includeShared { Request.of "inner" with dir := some "lib" }) fun _ =>
            .done (.ok .null)
      else
        .look fun v =>
          .ask (.assign (·.insert "y" ((v.vars.get? "x").getD .null))) fun _ =>
            .done (.error (.script "inner failed")) }

/-- What the inner script has done before it failed is there for the outer one, on lent variables
and on global ones. -/
theorem variables_shared_and_isolated_nested :
    (∃ u r₁ lent r', lent.get? "y" = some (.int 1) ∧
      Nest.Steps Setting.nested none none
        ⟨[], u, Setting.nested.code u.body .none, .lent .empty, r₁⟩
        ⟨[], u, .done (.ok .null), .lent lent, r'⟩ ∧
      r'.globals = (Setting.nested.start none 0).globals) ∧
    ∃ ds r', (Guest.ask (.includeGlobal "lib/main" false false) .done).tell Setting.nested
        (Setting.nested.account 3) 3 none .global (Setting.nested.start none 0) =
          some (ds, .ok .null, .global, r') ∧
      r'.globals.get? "y" = some (.int 1) ∧
      r'.globals = written ds (Setting.nested.start none 0).globals := by
  obtain ⟨hnest, -, hglobal, hlent⟩ := variables_shared_and_isolated Setting.nested 3 3
  constructor
  · obtain ⟨lent, r', hinclude, hy⟩ : ∃ lent r', Run.includeScript Setting.nested
        (Setting.nested.invoke 3) 3 (.of "lib/main") (.lent .empty) (Setting.nested.start none 0) =
          some (.ok .null, .lent lent, r') ∧ lent.get? "y" = some (.int 1) := by
      refine ⟨_, _, rfl, ?_⟩
      rfl
    have hkept : r'.globals = (Setting.nested.start none 0).globals := by
      obtain ⟨ds, htell, hkept⟩ := hlent hinclude
      have hreach : ((Errand.includeScript Setting.nested 3 (.of "lib/main") (.lent .empty)
          (Setting.nested.start none 0)).tell (Setting.nested.account 3)).map
            (fun x => x.1.map Deed.reachesOut) = some [false, false, false, false] := rfl
      rw [htell] at hreach
      have hmap : ds.map Deed.reachesOut = [false, false, false, false] := Option.some.inj hreach
      refine hkept.resolve_right ?_
      rintro ⟨d, hd, hout⟩
      have hmem := List.mem_map_of_mem (f := Deed.reachesOut) hd
      rw [hmap, hout] at hmem
      simp at hmem
    rcases hnest hinclude with ⟨hvars, -⟩ | ⟨u, r₁, -, -, hsteps⟩
    · cases hvars
      cases hy
    · exact ⟨u, _, lent, r', hy, hsteps, hkept⟩
  · obtain ⟨r', hexec, hy⟩ : ∃ r', (Guest.ask (.includeGlobal "lib/main" false false) .done).exec
        Setting.nested (Setting.nested.invoke 3) 3 none .global (Setting.nested.start none 0) =
          some (.ok .null, .global, r') ∧ r'.globals.get? "y" = some (.int 1) := by
      refine ⟨_, rfl, ?_⟩
      rfl
    obtain ⟨ds, htell, hwritten, -⟩ := hglobal hexec
    exact ⟨ds, r', htell, hy, hwritten⟩

end ScriptRun
