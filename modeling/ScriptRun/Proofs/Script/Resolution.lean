import ScriptRun.Script.Resolver
import ScriptRun.Proofs.Script.Catalog

/-!
# Resolution

Where a path leads is settled by segments. A location leads to a script if its segments are those
of the root with those of the script's path behind them (`Resolver.Leads`), and a relative path
leads to the script of the first base below which it leads anywhere. Joining texts, spelling the
rest of a path anew and reading it again in the catalog come to nothing else.
-/

namespace ScriptRun

variable {κ : Type}

namespace Resolver

/-- A location leads to a script if it lies at the script's place below the root. -/
def Leads (r : Resolver) (t : ScriptCatalog κ) (location : String) (u : ScriptUnit κ) : Prop :=
  u ∈ t.units ∧ Path.segments location = Path.segments r.root ++ Path.segments u.path

/-! ### Locations -/

lemma behind?_eq_some_iff {base path rest : List String} :
    behind? base path = some rest ↔ path = base ++ rest := by
  induction base generalizing path with
  | nil => rw [behind?, Option.some.injEq, List.nil_append]
  | cons b base ih =>
    cases path with
    | nil => simp [behind?]
    | cons p path =>
      by_cases h : b = p
      · simp [behind?, h, ih]
      · simp [behind?, h, Ne.symm h]

lemma behind?_eq_none_iff {base path : List String} :
    behind? base path = none ↔ ¬ base <+: path := by
  rw [Option.eq_none_iff_forall_ne_some, List.IsPrefix, not_exists]
  exact forall_congr' fun rest => not_congr (behind?_eq_some_iff.trans eq_comm)

variable {r : Resolver} {t : ScriptCatalog κ} {path location : String} {u : ScriptUnit κ}

/-- What is left of a location behind the root is spelled anew, and has the segments it had. -/
lemma fromRoot?_eq_some_iff {rest : String} :
    r.fromRoot? location = some rest ↔ ∃ segs, rest = Path.ofSegments segs ∧
      Path.segments location = Path.segments r.root ++ segs ∧ Path.segments rest = segs := by
  rw [fromRoot?, Option.map_eq_some_iff]
  constructor
  · rintro ⟨segs, h, rfl⟩
    rw [behind?_eq_some_iff] at h
    refine ⟨segs, rfl, h, Path.segments_ofSegments fun s hs => ?_⟩
    have hmem : s ∈ Path.segments location := h ▸ List.mem_append_right _ hs
    exact Path.isSegment_of_mem_segments hmem
  · rintro ⟨segs, rfl, h, -⟩
    exact ⟨segs, behind?_eq_some_iff.2 h, rfl⟩

lemma locate?_eq_some_iff (ht : t.Declared) :
    r.locate? t location = some u ↔ r.Leads t location u := by
  rw [locate?, Option.bind_eq_some_iff]
  constructor
  · rintro ⟨rest, hrest, hu⟩
    obtain ⟨segs, -, hlocation, hsegs⟩ := fromRoot?_eq_some_iff.1 hrest
    obtain ⟨hmem, hpath⟩ := ht.lookup?_eq_some_iff.1 hu
    refine ⟨hmem, ?_⟩
    rw [hlocation, ← hsegs, hpath]
  · rintro ⟨hmem, hlocation⟩
    have hsegs : Path.segments (Path.ofSegments (Path.segments u.path)) = Path.segments u.path :=
      Path.segments_canonical u.path
    refine ⟨Path.canonical u.path, ?_, ht.lookup?_eq_some_iff.2 ⟨hmem, hsegs⟩⟩
    exact fromRoot?_eq_some_iff.2 ⟨_, rfl, hlocation, hsegs⟩

lemma locate?_eq_none_iff (ht : t.Declared) :
    r.locate? t location = none ↔ ∀ u, ¬ r.Leads t location u := by
  rw [Option.eq_none_iff_forall_ne_some]
  exact forall_congr' fun u => not_congr (locate?_eq_some_iff ht)

/-! ### Relative paths -/

section Relative

variable {dir : Option String} (ht : t.Declared) (hrel : Path.isAbsolute path = false)

include hrel in
lemma resolve?_of_relative :
    r.resolve? t path dir = (r.bases dir).findSome? fun base =>
      r.locate? t (Path.under base path) := by
  rw [resolve?, hrel]
  rfl

include ht hrel

/-- The first base below which a relative path leads anywhere counts. -/
lemma resolve?_eq_some_iff :
    r.resolve? t path dir = some u ↔
      ∃ before base after, r.bases dir = before ++ base :: after ∧
        r.Leads t (Path.under base path) u ∧
        ∀ earlier ∈ before, ∀ v, ¬ r.Leads t (Path.under earlier path) v := by
  rw [resolve?_of_relative hrel, List.findSome?_eq_some_iff]
  simp only [locate?_eq_some_iff ht, locate?_eq_none_iff ht]

lemma resolve?_eq_none_iff :
    r.resolve? t path dir = none ↔
      ∀ base ∈ r.bases dir, ∀ v, ¬ r.Leads t (Path.under base path) v := by
  rw [resolve?_of_relative hrel, List.findSome?_eq_none_iff]
  simp only [locate?_eq_none_iff ht]

end Relative

/-- Where a path leads. The segments of a path are what it reads as from the left. An absolute path
leads to the script that lies there, and a relative one to the script of the first base below which
one lies: the directory that asks, the include paths, the working directory. What does not lie
below the root by its segments leads nowhere, whatever its text begins with. -/
theorem resolution_agrees (ht : t.Declared) :
    (∀ path segs, Path.segments path = segs ↔ Path.Reading path.toList segs) ∧
    (∀ (r : Resolver) path dir, Path.isAbsolute path = true →
      ∀ u, r.resolve? t path dir = some u ↔ r.Leads t path u) ∧
    (∀ (r : Resolver) path dir, Path.isAbsolute path = false →
      let bases := (dir.map fun dir =>
          if Path.isAbsolute dir then dir else Path.under r.root dir).toList ++
        r.includePaths ++ [r.workingDir]
      (∀ u, r.resolve? t path dir = some u ↔
        ∃ before base after, bases = before ++ base :: after ∧
          r.Leads t (Path.under base path) u ∧
          ∀ earlier ∈ before, ∀ v, ¬ r.Leads t (Path.under earlier path) v) ∧
      (r.resolve? t path dir = none ↔
        ∀ base ∈ bases, ∀ v, ¬ r.Leads t (Path.under base path) v)) ∧
    (∀ root includePaths workingDir,
      let r := ofSettings root includePaths workingDir
      r.root = root ∧
      r.workingDir = (if Path.isAbsolute workingDir then workingDir
        else Path.under root workingDir) ∧
      r.includePaths = includePaths.map fun path =>
        if Path.isAbsolute path then path else Path.under r.workingDir path) ∧
    ∀ (r : Resolver) location, ¬ Path.segments r.root <+: Path.segments location →
      r.fromRoot? location = none ∧ r.locate? t location = none := by
  refine ⟨fun path segs => Path.segments_eq_iff, ?_, ?_, ?_, ?_⟩
  · intro r path dir habs u
    rw [resolve?, if_pos habs]
    exact locate?_eq_some_iff ht
  · intro r path dir hrel
    exact ⟨fun u => resolve?_eq_some_iff ht hrel, resolve?_eq_none_iff ht hrel⟩
  · intro root includePaths workingDir
    exact ⟨rfl, rfl, rfl⟩
  · intro r location hroot
    have hnone : r.fromRoot? location = none := by
      rw [fromRoot?, behind?_eq_none_iff.2 hroot]
      rfl
    exact ⟨hnone, by rw [locate?, hnone]; rfl⟩

/-! ### A site -/

/-- Two scripts; the second lies in a directory that is named like the first. -/
def site : ScriptCatalog Unit := ⟨[⟨0, "lib/util", ()⟩, ⟨1, "util/x", ()⟩]⟩

lemma declared_site : site.Declared := by
  have hfirst : ScriptCatalog.empty.declare "/lib\\.//util" () =
      .ok (⟨0, "lib/util", ()⟩, ⟨[⟨0, "lib/util", ()⟩]⟩) := rfl
  have hsecond : ScriptCatalog.declare ⟨[⟨0, "lib/util", ()⟩]⟩ "util/x" () =
      .ok (⟨1, "util/x", ()⟩, site) := rfl
  exact .declare (.declare .empty hfirst) hsecond

/-- Neither the directory that asks nor a base whose text begins like the root offers the script;
the second include path does, taken from the working directory. -/
theorem resolution_agrees_site :
    (ofSettings "/srv/./app" ["/srv/application/lib", "../lib"] "public").resolve? site
      "x\\..//util" (some "pages") = some ⟨0, "lib/util", ()⟩ := by
  have hrel : Path.isAbsolute "x\\..//util" = false := rfl
  obtain ⟨-, -, hrelative, -, -⟩ := resolution_agrees declared_site
  refine ((hrelative _ _ (some "pages") hrel).1 _).2
    ⟨["/srv/./app/pages", "/srv/application/lib"], "/srv/./app/public/../lib",
      ["/srv/./app/public"], rfl, ⟨List.mem_cons_self, by decide⟩, ?_⟩
  have hnone : ∀ base ∈ ["/srv/./app/pages", "/srv/application/lib"], ∀ v ∈ site.units,
      Path.segments (Path.under base "x\\..//util") ≠
        Path.segments "/srv/./app" ++ Path.segments v.path := by decide
  exact fun base hbase v hv => hnone base hbase v hv.1 hv.2

end Resolver

end ScriptRun
