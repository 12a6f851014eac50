import ScriptRun.Proofs.Path.Directory
import ScriptRun.Proofs.Script.Reach
import ScriptRun.Proofs.Script.Registration

/-!
# Siblings

The path of a script is its directory with its name behind. A script that asks for another one of
its directory by the name therefore asks for the very path of that script, from the root, and the
directory that asks comes before all other bases.
-/

namespace ScriptRun

variable {κ σ : Type}

/-- The name of a script in its directory: the last segment of its path. -/
def ScriptUnit.name (u : ScriptUnit κ) : String := (Path.segments u.path).getLastD ""

namespace ScriptCatalog.Declared

variable {t : ScriptCatalog κ} {u : ScriptUnit κ}

/-- The path of a script is its directory and its name, and both are canonical. -/
lemma directory_name (ht : t.Declared) (hu : u ∈ t.units) :
    Path.IsCanonical u.directory ∧ Path.IsSegment u.name ∧
      Path.segments u.path = Path.segments u.directory ++ [u.name] := by
  have hpath := ht.canonical_path hu
  have hne : Path.segments u.path ≠ [] := by
    intro hnil
    rw [Path.canonical, hnil] at hpath
    exact ht.path_ne_empty hu hpath.symm
  obtain ⟨segs, name, hsegs⟩ := (List.eq_nil_or_concat' _).resolve_left hne
  have hordinary : ∀ s ∈ segs ++ [name], Path.IsSegment s := by
    rw [← hsegs]
    exact fun _ => Path.isSegment_of_mem_segments
  obtain ⟨hinit, hlast⟩ := List.forall_mem_append.1 hordinary
  have hname : Path.IsSegment name := List.forall_mem_singleton.1 hlast
  have hdir : u.directory = Path.ofSegments segs := by
    rw [ScriptUnit.directory, ← hpath, Path.canonical, hsegs,
      Path.directory_ofSegments_concat hname]
  have hlastD : u.name = name := by
    rw [ScriptUnit.name, hsegs, List.getLastD_concat]
  rw [hdir, hlastD, hsegs, Path.segments_ofSegments hinit]
  exact ⟨⟨segs, hinit, rfl⟩, hname, rfl⟩

end ScriptCatalog.Declared

/-- A name without separators has no scheme and is relative. -/
lemma Path.IsSegment.relative {name : String} (h : Path.IsSegment name) :
    Path.cutScheme? name = none ∧ Path.isAbsolute name = false := by
  have hcanonical := Path.canonical_eq_self_iff.2 h.isCanonical
  refine ⟨hcanonical ▸ Path.cutScheme?_canonical name, ?_⟩
  rw [← hcanonical, Bool.eq_false_iff, ne_eq, Path.isAbsolute_canonical, hcanonical]
  rintro ⟨c, sep, cs, -, hsep, hname⟩
  rw [h.plain sep (by simp [hname])] at hsep
  cases hsep

section Siblings

variable {s : Setting κ σ} {u v : ScriptUnit κ}

/-- A script that asks from its directory for another one of that directory by its name gets that
one, wherever the root is and whatever else goes by the name. -/
theorem sibling_first (ht : s.app.scripts.Declared) (hv : v ∈ s.app.scripts.units)
    (hdir : u.directory = v.directory) (hdrive : ¬ Path.HasDrive u.directory) (fuel : Nat)
    (r : Run κ σ) :
    Run.resolveScript s fuel v.name (some u.directory) r = some (.ok (some v), r) := by
  obtain ⟨hcanonical, hname, hpath⟩ := ht.directory_name hv
  obtain ⟨hscheme, hrel⟩ := hname.relative
  rw [hdir] at hdrive ⊢
  have hbelow : Path.onto s.resolver.root v.directory =
      Path.under s.resolver.root v.directory := by
    have habs := mt (Path.isAbsolute_canonical v.directory).1
    rw [Path.canonical_eq_self_iff.2 hcanonical] at habs
    rw [Path.onto, if_neg (habs hdrive)]
  have hleads : s.resolver.Leads s.app.scripts
      (Path.under (Path.under s.resolver.root v.directory) v.name) v := by
    refine ⟨hv, ?_⟩
    rw [Path.segments_under, Path.segments_under, hcanonical.readOnto_eq,
      Path.readOnto_of_forall hname.plain, Path.push_of_isSegment hname, hpath,
      List.append_assoc]
  -- the directory that asks is the first base, so no other one is searched
  have hfound : s.resolver.resolve? s.app.scripts v.name (some v.directory) = some v := by
    rw [Resolver.resolve?_of_relative hrel, Resolver.bases, Option.map_some, hbelow,
      Option.toList_some, List.append_assoc, List.singleton_append, List.findSome?_cons,
      (Resolver.locate?_eq_some_iff ht).2 hleads]
  rw [Run.resolveScript, hscheme, hfound]

end Siblings

/-! ### One name in two directories -/

/-- Two scripts in one directory, and one at the root that has the name of the second. The root is
relative, and what is searched besides is the root. -/
def Setting.namesakes : Setting Unit Nat :=
  { Setting.plain { Application.empty with
      scripts := .declareAll .empty [("pages/x", ()), ("pages/util", ()), ("util", ())] } with
    options := { Options.atRoot "srv/./../app" with includePaths := ["/app"], workingDir := "/app" } }

/-- The first script gets its sibling by the name, and whoever asks from nowhere the other one. -/
theorem sibling_first_namesakes :
    Run.resolveScript Setting.namesakes 0 "util" (some "pages") (Setting.namesakes.start none 0) =
        some (.ok (some ⟨1, "pages/util", ()⟩), Setting.namesakes.start none 0) ∧
      Run.resolveScript Setting.namesakes 0 "util" none (Setting.namesakes.start none 0) =
        some (.ok (some ⟨2, "util", ()⟩), Setting.namesakes.start none 0) := by
  have hdrive : ¬ Path.HasDrive "pages" := by
    rintro ⟨c, sep, cs, -, -, h⟩
    cases h
  have hdeclared : Setting.namesakes.app.scripts.Declared :=
    ScriptCatalog.Declared.declareAll .empty _
  have hmem : (⟨1, "pages/util", ()⟩ : ScriptUnit Unit) ∈ Setting.namesakes.app.scripts.units :=
    List.mem_cons_of_mem _ List.mem_cons_self
  have hsibling := sibling_first (u := ⟨0, "pages/x", ()⟩) hdeclared hmem rfl hdrive 0
    (Setting.namesakes.start none 0)
  exact ⟨hsibling, rfl⟩

end ScriptRun
