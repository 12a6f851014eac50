import ScriptRun.Proofs.Path.Respelling
import ScriptRun.Proofs.Script.Reach
import ScriptRun.Proofs.Run.Executions

/-!
# Scripts by any spelling of their path

Where a path leads depends on the segments that it leaves below a base, and so not on how it is
spelled. A script that has been included by one spelling is therefore found included by every other:
marks belong to scripts and not to texts.
-/

namespace ScriptRun

open Relation

variable {κ σ : Type}

namespace Resolver

variable {r : Resolver} {t : ScriptCatalog κ} {p q : String}

lemma locate?_eq_of_segments (h : Path.segments p = Path.segments q) :
    r.locate? t p = r.locate? t q := by
  rw [locate?, locate?, fromRoot?, fromRoot?, h]

lemma resolve?_eq_of_respelled (h : EqvGen Path.Respelled p q)
    (habs : Path.isAbsolute p = Path.isAbsolute q) (dir : Option String) :
    r.resolve? t p dir = r.resolve? t q dir := by
  rw [resolve?, resolve?, ← habs]
  split
  · exact locate?_eq_of_segments (Path.segments_eq_of_respelled h)
  · congr 1
    funext base
    exact locate?_eq_of_segments (Path.segments_under_of_respelled h base)

end Resolver

variable {s : Setting κ σ} {r r' r'' : Run κ σ}

lemma resolveScript_of_no_scheme {path : String} (h : Path.cutScheme? path = none) (fuel : Nat)
    (dir : Option String) (r : Run κ σ) :
    Run.resolveScript s fuel path dir r =
      some (.ok (s.resolver.resolve? s.app.scripts path dir), r) := by
  rw [Run.resolveScript, h]

/-! ### What an inclusion leaves behind -/

section Include

variable {call : Invoke κ σ} {fuel : Nat} {q : Request} {u : ScriptUnit κ} {vars vars' : Variables}
  {o : Outcome Value}

/-- However the inclusion of a script ends, the script is marked then. -/
lemma has_of_includeScript (hc : call.Stretches s) (hd : r.isDisposed = false)
    (hres : Run.resolveScript s fuel q.path q.dir r = some (.ok (some u), r))
    (h : Run.includeScript s call fuel q vars r = some (o, vars', r')) :
    r'.included.has u = true := by
  cases hu : r.included.has u with
  | true =>
    exact (stretch_includeScript hc h).moves.has hu
  | false =>
    obtain ⟨-, hmarked, -⟩ := entered_spec s u hd
    rw [includeScript_eq_execute hd hres (.inr hu)] at h
    exact (hc h).moves.has hmarked

/-- Where a script is marked, a request to include it once leaves everything as it is. -/
lemma includeScript_of_marked (hq : q.once = true)
    (hres : Run.resolveScript s fuel q.path q.dir r = some (.ok (some u), r))
    (hu : r.included.has u = true) :
    Run.includeScript s call fuel q vars r =
      some (if r.isDisposed then .ok .null else .ok (.bool true), vars, r) := by
  cases hd : r.isDisposed with
  | true =>
    rw [Run.includeScript, if_pos hd]
    rfl
  | false => exact includeScript_of_has hd hq hres hu

end Include

/-- A path leads to the same script by all its spellings, from whatever directory it is asked for and
in whatever state of the run. So once a script has begun to be executed by one spelling, or its
inclusion has come to any end, it is not executed again by a request to include it once, however that
spells the path. -/
theorem spelling_irrelevant {p q : String} (hsame : EqvGen Path.Respelled p q)
    (habs : Path.isAbsolute p = Path.isAbsolute q) (hp : Path.cutScheme? p = none)
    (hq : Path.cutScheme? q = none) (s : Setting κ σ) (dir : Option String) :
    (∀ fuel (r : Run κ σ), ∃ found, Run.resolveScript s fuel p dir r = some (.ok found, r) ∧
      Run.resolveScript s fuel q dir r = some (.ok found, r)) ∧
    ∀ (first again : Request), first.path = p → first.dir = dir → again.path = q →
      again.dir = dir → again.once = true →
      ∀ fuel (r r' : Run κ σ) u, r.isDisposed = false →
        Run.resolveScript s fuel p dir r = some (.ok (some u), r) →
        (Moves s (r.entered u) r' ∨ ∃ depth vars o vars' r₁,
          Run.includeScript s (s.invoke depth) fuel first vars r = some (o, vars', r₁) ∧
          Moves s r₁ r') →
        ∀ (call : Invoke κ σ) fuel' vars, Run.includeScript s call fuel' again vars r' =
          some (if r'.isDisposed then .ok .null else .ok (.bool true), vars, r') := by
  have hfound : s.resolver.resolve? s.app.scripts p dir = s.resolver.resolve? s.app.scripts q dir :=
    Resolver.resolve?_eq_of_respelled hsame habs dir
  refine ⟨fun fuel r => ⟨_, resolveScript_of_no_scheme hp fuel dir r, ?_⟩, ?_⟩
  · rw [hfound]
    exact resolveScript_of_no_scheme hq fuel dir r
  · rintro first again rfl rfl rfl hdir honce fuel r r' u hd hres hlater call fuel' vars
    have hmarked : r'.included.has u = true := by
      rcases hlater with hlater | ⟨depth, vars, o, vars', r₁, hincluded, hlater⟩
      · obtain ⟨-, hmarked, -⟩ := entered_spec s u hd
        exact hlater.has hmarked
      · exact hlater.has (has_of_includeScript (stretches_invoke s depth) hd hres hincluded)
    have hunit : s.resolver.resolve? s.app.scripts again.path again.dir = some u := by
      rw [hdir, ← hfound]
      rw [resolveScript_of_no_scheme hp] at hres
      simpa using hres
    refine includeScript_of_marked honce ?_ hmarked
    rw [resolveScript_of_no_scheme hq, hunit]

/-! ### A path and a detour -/

/-- Out of the directory and back into it, past an idle segment, and with another separator. -/
lemma respelled_pages : EqvGen Path.Respelled "pages/x" "pages\\../pages/./x" := by
  have hplain : "pages".toList.all (fun c => !Path.isSeparator c) = true := rfl
  have hsegment : Path.IsSegment "pages" :=
    ⟨by decide, by decide, by decide, by simpa using List.all_eq_true.1 hplain⟩
  have hdetour : Path.Respelled "pages/x" "pages/../pages/x" := by
    have hp : Path.pieces Path.isSeparator "pages/x".toList = [] ++ ["pages".toList, ['x']] := rfl
    exact .detour hsegment hp rfl
  have hidle : Path.Respelled "pages/../pages/x" "pages/../pages/./x" := by
    have hp : Path.pieces Path.isSeparator "pages/../pages/x".toList =
        ["pages".toList, ['.', '.'], "pages".toList] ++ [['x']] := rfl
    exact .idle (.inr rfl) hp rfl
  have hseparator : Path.Respelled "pages/../pages/./x" "pages\\../pages/./x" := by
    have hp : "pages/../pages/./x".toList = "pages".toList ++ '/' :: "../pages/./x".toList := rfl
    have hq : "pages\\../pages/./x".toList = "pages".toList ++ '\\' :: "../pages/./x".toList :=
      rfl
    exact .separator rfl rfl hp hq
  exact .trans _ _ _ (.rel _ _ hdetour) (.trans _ _ _ (.rel _ _ hidle) (.rel _ _ hseparator))

/-- The script has been included by its own path, and is found included by another spelling. -/
theorem spelling_irrelevant_pages :
    ∃ r', Run.includeScript (Setting.lone "/srv") ((Setting.lone "/srv").invoke 1) 0 (.of "pages/x")
        .global ((Setting.lone "/srv").start none 0) = some (.ok .null, .global, r') ∧
      ∀ call, Run.includeScript (Setting.lone "/srv") call 0
        { Request.of "pages\\../pages/./x" with once := true } .global r' =
          some (.ok (.bool true), .global, r') := by
  obtain ⟨-, honce⟩ := spelling_irrelevant respelled_pages rfl rfl rfl (Setting.lone "/srv") none
  obtain ⟨r', hincluded, hd⟩ : ∃ r', Run.includeScript (Setting.lone "/srv")
      ((Setting.lone "/srv").invoke 1) 0 (.of "pages/x") .global
      ((Setting.lone "/srv").start none 0) = some (.ok .null, .global, r') ∧
        r'.isDisposed = false := by
    refine ⟨_, rfl, ?_⟩
    rfl
  refine ⟨r', hincluded, fun call => ?_⟩
  have hagain := honce (.of "pages/x") { Request.of "pages\\../pages/./x" with once := true } rfl rfl
    rfl rfl rfl 0 ((Setting.lone "/srv").start none 0) r' ⟨0, "pages/x", ()⟩ rfl rfl
    (.inr ⟨1, _, _, _, _, hincluded, .refl⟩) call 0 .global
  rwa [hd] at hagain

end ScriptRun
