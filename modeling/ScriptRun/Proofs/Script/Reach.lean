import ScriptRun.Settings.Configuration
import ScriptRun.Proofs.Path.Canonical
import ScriptRun.Proofs.Script.Resolution
import ScriptRun.Proofs.Run.Progress

/-!
# Scripts from the root of a run

A run that works at its root is asked for a script by the script's own path. The working directory
is taken from the root, and so the root is read a second time if it is relative. The script is found
exactly if that reading leaves the root where it was: for every absolute root, and for those
relative ones that go up as far as they go down.
-/

namespace ScriptRun

variable {κ σ : Type}

/-! ### Roots read twice -/

namespace Path

/-- Without `..`, a path goes onto a stack as it is. -/
lemma readOnto_of_no_up {path : List Char} (h : ['.', '.'] ∉ pieces isSeparator path)
    (stack : List String) : readOnto stack path = stack ++ readOnto [] path := by
  rw [readOnto, readOnto]
  generalize pieces isSeparator path = ps at h ⊢
  induction ps using List.reverseRecOn with
  | nil => exact (List.append_nil stack).symm
  | append_singleton ps p ih =>
    obtain ⟨hps, hp⟩ := not_or.1 (mt List.mem_append.2 h)
    have hup : p ≠ ['.', '.'] := fun hup => hp (List.mem_singleton.2 hup.symm)
    rw [List.foldl_append, List.foldl_append, ih hps, List.foldl_cons, List.foldl_cons,
      List.foldl_nil, List.foldl_nil, push, push, if_neg hup, if_neg hup]
    split
    · rfl
    · rw [List.append_assoc]

/-- A relative root without `..` is left where it was if it has no segments. -/
lemma segments_under_self_iff {root : String} (h : ['.', '.'] ∉ pieces isSeparator root.toList) :
    segments (under root root) = segments root ↔ segments root = [] := by
  rw [segments_under, readOnto_of_no_up h]
  exact List.append_right_eq_self

end Path

/-! ### Options at a root -/

namespace Options

/-- A run has its root at some place, works there, and has no include paths. -/
structure WorksAt (o : Options) (place : String) : Prop where
  root : o.root = place
  workingDir : o.workingDir = place
  includePaths : o.includePaths = []

lemma worksAt_atRoot (root : String) : (atRoot root).WorksAt root := ⟨rfl, rfl, rfl⟩

lemma worksAt_ofConfiguration {c : Configuration} {root : String}
    (hroot : c.scriptRoot? = some root) (hdir : c.project.workingDir? = none)
    (hpaths : c.includePaths = []) : (ofConfiguration c).WorksAt root where
  root := by rw [ofConfiguration, hroot]; rfl
  workingDir := by
    rw [ofConfiguration, Configuration.workingDir?, hdir, hroot]
    rfl
  includePaths := hpaths

end Options

lemma ScriptCatalog.Declared.cutScheme?_path {t : ScriptCatalog κ} (ht : t.Declared)
    {u : ScriptUnit κ} (hu : u ∈ t.units) : Path.cutScheme? u.path = none := by
  rw [← ht.canonical_path hu]
  exact Path.cutScheme?_canonical u.path

section Reach

variable {s : Setting κ σ} {root : String} {u : ScriptUnit κ}

/-- A script that is asked for by its path is looked for below the working directory. -/
lemma leads_path_iff {r : Resolver} {t : ScriptCatalog κ} (ht : t.Declared) (hu : u ∈ t.units)
    (base : String) :
    r.Leads t (Path.under base u.path) u ↔ Path.segments base = Path.segments r.root := by
  have hread : Path.segments (Path.under base u.path) =
      Path.segments base ++ Path.segments u.path := by
    rw [Path.segments_under]
    conv_lhs => rw [← ht.canonical_path hu]
    exact Path.readOnto_ofSegments (fun _ => Path.isSegment_of_mem_segments) _
  rw [Resolver.Leads, hread]
  exact (and_iff_right hu).trans (List.append_left_inj _)

lemma resolve?_path_iff {r : Resolver} {t : ScriptCatalog κ} (ht : t.Declared) (hu : u ∈ t.units)
    (hrel : Path.isAbsolute u.path = false) (hpaths : r.includePaths = []) :
    r.resolve? t u.path none = some u ↔ Path.segments r.workingDir = Path.segments r.root := by
  have hbases : r.bases none = [r.workingDir] := by rw [Resolver.bases, hpaths]; rfl
  rw [Resolver.resolve?_of_relative hrel, hbases, List.findSome?_singleton,
    Resolver.locate?_eq_some_iff ht, leads_path_iff ht hu]

/-- A run that works at its root leads from the path of a script to the script exactly if the
working directory, which is taken from the root, is the root. It is whenever the root is absolute. A
relative root is read twice: one without `..` leads to its scripts only if it names no
directory. -/
theorem reached_from_root (ht : s.app.scripts.Declared)
    (ho : s.options = .atRoot root ∨ ∃ c : Configuration, s.options = .ofConfiguration c ∧
      c.scriptRoot? = some root ∧ c.project.workingDir? = none ∧ c.includePaths = [])
    (hu : u ∈ s.app.scripts.units) (hdrive : ¬ Path.HasDrive u.path) (fuel : Nat) (r : Run κ σ) :
    (Run.resolveScript s fuel u.path none r = some (.ok (some u), r) ↔
      Path.segments (Path.onto root root) = Path.segments root) ∧
    (Path.isAbsolute root = true →
      Run.resolveScript s fuel u.path none r = some (.ok (some u), r)) ∧
    (Path.isAbsolute root = false → ['.', '.'] ∉ Path.pieces Path.isSeparator root.toList →
      (Run.resolveScript s fuel u.path none r = some (.ok (some u), r) ↔
        Path.segments root = [])) := by
  have hworks : s.options.WorksAt root := by
    rcases ho with ho | ⟨c, ho, hroot, hdir, hpaths⟩
    · exact ho ▸ Options.worksAt_atRoot root
    · exact ho ▸ Options.worksAt_ofConfiguration hroot hdir hpaths
  have hrel : Path.isAbsolute u.path = false := by
    rw [← ht.canonical_path hu] at hdrive ⊢
    exact Bool.eq_false_iff.2 (mt (Path.isAbsolute_canonical u.path).1 hdrive)
  have hresolve : Run.resolveScript s fuel u.path none r =
      some (.ok (s.resolver.resolve? s.app.scripts u.path none), r) := by
    rw [Run.resolveScript, ht.cutScheme?_path hu]
  have hroot : s.resolver.root = root := hworks.root
  have hdir : s.resolver.workingDir = Path.onto root root := by
    rw [Setting.resolver, Resolver.ofSettings, hworks.root, hworks.workingDir]
  have hpaths : s.resolver.includePaths = [] := by
    rw [Setting.resolver, hworks.includePaths]
    rfl
  have hiff : Run.resolveScript s fuel u.path none r = some (.ok (some u), r) ↔
      Path.segments (Path.onto root root) = Path.segments root := by
    rw [hresolve, ← hdir]
    simp only [Option.some.injEq, Prod.mk.injEq, Except.ok.injEq, and_true]
    rw [resolve?_path_iff ht hu hrel hpaths, hroot]
  refine ⟨hiff, fun habs => hiff.2 ?_, fun hroot hup => hiff.trans ?_⟩
  · rw [Path.onto, if_pos habs]
  · rw [Path.onto, hroot]
    exact Path.segments_under_self_iff hup

end Reach

/-! ### A root that is relative -/

/-- One script, in a run that works at some root. -/
def Setting.lone (root : String) : Setting Unit Nat :=
  { Setting.plain { Application.empty with scripts := ⟨[⟨0, "pages/x", ()⟩]⟩ } with
    options := .atRoot root }

lemma declared_lone (root : String) : (Setting.lone root).app.scripts.Declared := by
  have h : ScriptCatalog.empty.declare "/pages\\x" () =
      .ok (⟨0, "pages/x", ()⟩, (Setting.lone root).app.scripts) := rfl
  exact .declare .empty h

lemma not_hasDrive_pages : ¬ Path.HasDrive "pages/x" := by
  rintro ⟨c, sep, cs, -, -, h⟩
  cases h

/-- A relative root may lead to its scripts if it goes up as far as it goes down. -/
theorem reached_from_root_up :
    Run.resolveScript (Setting.lone "a/../../b") 0 "pages/x" none
        ((Setting.lone "a/../../b").start none 0) =
      some (.ok (some ⟨0, "pages/x", ()⟩), (Setting.lone "a/../../b").start none 0) := by
  have hreached := reached_from_root (u := ⟨0, "pages/x", ()⟩) (declared_lone "a/../../b")
    (.inl rfl) (List.mem_singleton_self _) not_hasDrive_pages 0
    ((Setting.lone "a/../../b").start none 0)
  exact hreached.1.2 (by decide)

/-- A run at a relative root does not find its only script by the script's own path. -/
theorem lost_from_relative_root :
    (Setting.lone "app").options = .atRoot "app" ∧
    (⟨0, "pages/x", ()⟩ : ScriptUnit Unit) ∈ (Setting.lone "app").app.scripts.units ∧
      Run.resolveScript (Setting.lone "app") 0 "pages/x" none ((Setting.lone "app").start none 0) =
        some (.ok none, (Setting.lone "app").start none 0) :=
  ⟨rfl, List.mem_singleton_self _, rfl⟩

end ScriptRun
