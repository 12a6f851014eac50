import ScriptRun.Proofs.Path.Canonical
import ScriptRun.Proofs.Script.Catalog

/-!
# Registering scripts

However often registering a script is tried, and however often it is refused, the scripts of the
catalog stand at their indices, each under a canonical path of its own. So a path leads to the script
whose path is its canonical spelling, and is free to be registered if it leads to none.
-/

namespace ScriptRun

variable {κ : Type}

namespace ScriptCatalog

variable {t t' : ScriptCatalog κ} {path : String} {body : κ} {u : ScriptUnit κ} {i : Nat}

/-! ### Tries -/

/-- What trying to register a script leaves. -/
def after (t : ScriptCatalog κ) (path : String) (body : κ) : ScriptCatalog κ :=
  match t.declare path body with
  | .ok (_, t') => t'
  | .error _ => t

lemma after_of_ok (h : t.declare path body = .ok (u, t')) : t.after path body = t' := by
  rw [after, h]

lemma after_of_error {e : RunError} (h : t.declare path body = .error e) :
    t.after path body = t := by
  rw [after, h]

/-- What trying to register scripts one after another leaves. -/
def declareAll (t : ScriptCatalog κ) (tried : List (String × κ)) : ScriptCatalog κ :=
  tried.foldl (fun t (path, body) => t.after path body) t

lemma units_prefix_after (t : ScriptCatalog κ) (path : String) (body : κ) :
    t.units <+: (t.after path body).units := by
  cases h : t.declare path body with
  | ok x =>
    rw [after_of_ok h, (units_declare h).2]
    exact List.prefix_append _ _
  | error e =>
    have hafter : (t.after path body).units = t.units := congrArg units (after_of_error h)
    exact hafter ▸ List.prefix_rfl

lemma units_prefix_declareAll (t : ScriptCatalog κ) (tried : List (String × κ)) :
    t.units <+: (t.declareAll tried).units := by
  induction tried generalizing t with
  | nil => exact List.prefix_rfl
  | cons x tried ih => exact (t.units_prefix_after x.1 x.2).trans (ih _)

/-- A script keeps its place for ever. -/
lemma at?_declareAll (h : t.at? i = some u) (tried : List (String × κ)) :
    (t.declareAll tried).at? i = some u := by
  obtain ⟨hi, rfl⟩ := List.getElem?_eq_some_iff.1 h
  exact List.prefix_iff_getElem?.1 (t.units_prefix_declareAll tried) i hi

namespace Declared

lemma after (ht : t.Declared) (path : String) (body : κ) : (t.after path body).Declared := by
  cases h : t.declare path body with
  | ok x =>
    rw [after_of_ok h]
    exact ht.declare h
  | error e =>
    rw [after_of_error h]
    exact ht

lemma declareAll (ht : t.Declared) (tried : List (String × κ)) : (t.declareAll tried).Declared := by
  induction tried generalizing t with
  | nil => exact ht
  | cons x tried ih => exact ih (ht.after x.1 x.2)

/-! ### What holds of a catalog -/

lemma path_ne_empty (ht : t.Declared) (hu : u ∈ t.units) : u.path ≠ "" := by
  induction ht with
  | empty => cases hu
  | declare _ h ih =>
    obtain ⟨⟨hne, -⟩, rfl, rfl⟩ := declare_eq_ok_iff.1 h
    rcases List.mem_append.1 hu with hu | hu
    · exact ih hu
    · rw [List.mem_singleton.1 hu]
      exact hne

/-- The script at a place is the one with that index. -/
lemma at?_eq_some_iff (ht : t.Declared) : t.at? i = some u ↔ u ∈ t.units ∧ u.index = i := by
  have hindex {j : Nat} {v : ScriptUnit κ} (h : t.at? j = some v) : v.index = j := by
    obtain ⟨hj, hv⟩ := List.getElem?_eq_some_iff.1 h
    have hmap : (t.units.map (·.index))[j]? = (List.range t.size)[j]? := by rw [ht.indices]
    simpa [hj, hv, size] using hmap
  constructor
  · intro h
    exact ⟨List.mem_of_getElem? h, hindex h⟩
  -- a script of the catalog stands at some place, and that is its index
  · rintro ⟨hu, rfl⟩
    obtain ⟨j, hj⟩ := List.getElem?_of_mem hu
    rw [hindex hj]
    exact hj

/-- A path leads to the script whose path is its canonical spelling. -/
lemma lookup?_eq_some_iff_path (ht : t.Declared) :
    t.lookup? path = some u ↔ u ∈ t.units ∧ Path.canonical path = u.path := by
  rw [ht.lookup?_eq_some_iff]
  refine and_congr_right fun hu => ⟨fun hsegs => ?_, fun hpath => ?_⟩
  · rw [← ht.canonical_path hu, Path.canonical, Path.canonical, hsegs]
  · rw [← hpath, Path.segments_canonical]

end Declared

end ScriptCatalog

/-- Reading a path canonically a second time changes nothing, and those left as they are by it are
the paths of ordinary segments with one `/` between them. In a catalog into which any scripts were
tried to be registered, the paths are of this kind, no two alike and none empty; the place of a
script is its index, and there it stays; a path leads to the script whose path it spells; and what is
refused, leaving the catalog as it is, is the root and what leads to a script already. -/
theorem catalog_in_step (tried : List (String × κ)) :
    (∀ path, Path.canonical (Path.canonical path) = Path.canonical path ∧
      (Path.canonical path = path ↔ Path.IsCanonical path)) ∧
    let t := ScriptCatalog.empty.declareAll tried
    (t.units.map (·.path)).Nodup ∧
    (∀ u ∈ t.units, u.path ≠ "" ∧ Path.IsCanonical u.path) ∧
    (∀ i u, t.at? i = some u ↔ u ∈ t.units ∧ u.index = i) ∧
    (∀ path u, t.lookup? path = some u ↔ u ∈ t.units ∧ Path.canonical path = u.path) ∧
    (∀ path body,
      (∃ e, t.declare path body = .error e) ↔
        Path.canonical path = "" ∨ ∃ u, t.lookup? path = some u) ∧
    (∀ path body e, t.declare path body = .error e →
      e = .redeclared .script path ∧ t.after path body = t) ∧
    (∀ path body u t', t.declare path body = .ok (u, t') →
      u = ⟨t.size, Path.canonical path, body⟩ ∧ t'.units = t.units ++ [u] ∧
        t.after path body = t') ∧
    ∀ more i u, t.at? i = some u → (t.declareAll more).at? i = some u := by
  refine ⟨fun path => ⟨Path.canonical_canonical path, Path.canonical_eq_self_iff⟩, ?_⟩
  intro t
  have ht : t.Declared := .declareAll .empty tried
  refine ⟨ht.nodup_paths, fun u hu => ⟨ht.path_ne_empty hu, ?_⟩, fun i u => ht.at?_eq_some_iff,
    fun path u => ht.lookup?_eq_some_iff_path, fun path body => ?_, fun path body e h => ?_,
    fun path body u t' h => ?_, fun more i u h => ScriptCatalog.at?_declareAll h more⟩
  · exact Path.canonical_eq_self_iff.1 (ht.canonical_path hu)
  · simp only [ScriptCatalog.declare_eq_error_iff, exists_and_left, exists_eq, and_true,
      Option.isSome_iff_exists]
  · exact ⟨(ScriptCatalog.declare_eq_error_iff.1 h).2, ScriptCatalog.after_of_error h⟩
  · obtain ⟨-, hunit, rfl⟩ := ScriptCatalog.declare_eq_ok_iff.1 h
    exact ⟨hunit, rfl, ScriptCatalog.after_of_ok h⟩

/-- A script, another spelling of its path, the root, and one more script. -/
def ScriptCatalog.refusals : ScriptCatalog Unit :=
  .declareAll .empty
    [("lib\\util/./str", ()), ("/lib//x/../util/str", ()), ("a/..", ()), ("../b", ())]

/-- Two of them are refused. What is registered is found by any spelling, and refused by any. -/
theorem catalog_in_step_refusals :
    ScriptCatalog.refusals.units.map (·.path) = ["lib/util/str", "b"] ∧
      ScriptCatalog.refusals.lookup? "\\lib/x\\../util/str/." = some ⟨0, "lib/util/str", ()⟩ ∧
      ∃ e, ScriptCatalog.refusals.declare "./c/../b" () = .error e := by
  obtain ⟨-, -, -, -, hlookup, hrefused, -⟩ := catalog_in_step
    [("lib\\util/./str", ()), ("/lib//x/../util/str", ()), ("a/..", ()), ("../b", ())]
  refine ⟨rfl, (hlookup _ _).2 ⟨List.mem_cons_self, rfl⟩, (hrefused _ _).2 (.inr ⟨⟨1, "b", ()⟩, ?_⟩)⟩
  exact (hlookup _ _).2 ⟨List.mem_cons_of_mem _ List.mem_cons_self, rfl⟩

end ScriptRun
