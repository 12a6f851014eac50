import ScriptRun.Script.Catalog
import ScriptRun.Proofs.Path.Segments
import Mathlib.Data.List.Nodup

/-!
# Catalogs of scripts

A catalog comes about by registering scripts one after another. So the index of a script is its
place, no two scripts have one path, and a path leads to the script whose segments it has.
-/

namespace ScriptRun

variable {κ : Type}

/-! ### Registration -/

section Declare

variable {t t' : ScriptCatalog κ} {path : String} {body : κ} {u : ScriptUnit κ}

/-- All that can be registered is what is not the root and leads to no script. -/
lemma ScriptCatalog.declare_eq_ok_iff :
    t.declare path body = .ok (u, t') ↔
      (Path.canonical path ≠ "" ∧ t.lookup? path = none) ∧
        u = ⟨t.size, Path.canonical path, body⟩ ∧ t' = ⟨t.units ++ [u]⟩ := by
  rw [declare, ← Option.not_isSome_iff_eq_none, ← not_or, lookup?]
  dsimp only
  split
  case isTrue h => exact iff_of_false nofun fun hfree => hfree.1 h
  case isFalse h =>
    rw [and_iff_right h, Except.ok.injEq, Prod.mk.injEq]
    constructor
    · rintro ⟨rfl, rfl⟩
      exact ⟨rfl, rfl⟩
    · rintro ⟨rfl, rfl⟩
      exact ⟨rfl, rfl⟩

/-- The root is refused, and so is what leads to a script. -/
lemma ScriptCatalog.declare_eq_error_iff {e : RunError} :
    t.declare path body = .error e ↔
      (Path.canonical path = "" ∨ (t.lookup? path).isSome = true) ∧
        e = .redeclared .script path := by
  rw [declare, lookup?]
  dsimp only
  split
  case isTrue h => rw [and_iff_right h, Except.error.injEq, eq_comm]
  case isFalse h => exact iff_of_false nofun fun hrefused => h hrefused.1

/-- A script is registered behind all others. -/
lemma ScriptCatalog.units_declare (h : t.declare path body = .ok (u, t')) :
    u.index = t.size ∧ t'.units = t.units ++ [u] := by
  obtain ⟨-, rfl, rfl⟩ := declare_eq_ok_iff.1 h
  exact ⟨rfl, rfl⟩

/-- A script is registered under the canonical spelling of a path that no other script has. -/
lemma ScriptCatalog.path_declare (h : t.declare path body = .ok (u, t')) :
    u.path = Path.canonical path ∧ ∀ v ∈ t.units, v.path ≠ u.path := by
  obtain ⟨⟨-, hfree⟩, rfl, rfl⟩ := declare_eq_ok_iff.1 h
  refine ⟨rfl, fun v hv hpath => ?_⟩
  exact List.find?_eq_none.1 hfree v hv (beq_iff_eq.2 hpath)

end Declare

/-- A catalog that came about by registering scripts. -/
inductive ScriptCatalog.Declared : ScriptCatalog κ → Prop
  | empty : Declared .empty
  | declare {t t' : ScriptCatalog κ} {path : String} {body : κ} {u : ScriptUnit κ} (ht : Declared t)
    (h : t.declare path body = .ok (u, t')) : Declared t'

lemma ScriptCatalog.mem_of_find? {t : ScriptCatalog κ} {path : String} {u : ScriptUnit κ}
    (h : t.find? path = some u) : u ∈ t.units ∧ u.path = path := by
  have hpath := List.find?_some h
  exact ⟨List.mem_of_find?_eq_some h, beq_iff_eq.1 hpath⟩

namespace ScriptCatalog.Declared

variable {t : ScriptCatalog κ}

/-- The index of a script is its place. -/
lemma indices (ht : t.Declared) : t.units.map (·.index) = List.range t.size := by
  induction ht with
  | empty => rfl
  | declare ht h ih =>
    obtain ⟨hindex, hunits⟩ := units_declare h
    rw [size, hunits, List.map_append, ih, List.length_append, List.length_singleton,
      List.range_succ, List.map_singleton, hindex, size]

lemma ascending (ht : t.Declared) : (t.units.map (·.index)).Pairwise (· < ·) := by
  rw [ht.indices]
  exact List.pairwise_lt_range

lemma nodup_indices (ht : t.Declared) : (t.units.map (·.index)).Nodup :=
  ht.ascending.imp Nat.ne_of_lt

lemma nodup (ht : t.Declared) : t.units.Nodup := ht.nodup_indices.of_map _

lemma index_inj (ht : t.Declared) {u v : ScriptUnit κ} (hu : u ∈ t.units) (hv : v ∈ t.units)
    (h : u.index = v.index) : u = v :=
  List.inj_on_of_nodup_map ht.nodup_indices hu hv h

/-! ### Paths -/

lemma canonical_path (ht : t.Declared) {u : ScriptUnit κ} (hu : u ∈ t.units) :
    Path.canonical u.path = u.path := by
  induction ht with
  | empty => cases hu
  | declare _ h ih =>
    rw [(units_declare h).2] at hu
    rcases List.mem_append.1 hu with hu | hu
    · exact ih hu
    · rw [List.mem_singleton.1 hu, (path_declare h).1, Path.canonical_canonical]

lemma nodup_paths (ht : t.Declared) : (t.units.map (·.path)).Nodup := by
  induction ht with
  | empty => exact .nil
  | declare _ h ih =>
    rw [(units_declare h).2, List.map_append, List.map_singleton]
    refine ih.append (List.nodup_singleton _) fun path hold hnew => ?_
    obtain ⟨v, hv, hpath⟩ := List.mem_map.1 hold
    exact (path_declare h).2 v hv (hpath.trans (List.mem_singleton.1 hnew))

/-- A path leads to the script that has its segments. -/
lemma lookup?_eq_some_iff (ht : t.Declared) {path : String} {u : ScriptUnit κ} :
    t.lookup? path = some u ↔ u ∈ t.units ∧ Path.segments path = Path.segments u.path := by
  constructor
  · intro h
    obtain ⟨hu, hpath⟩ := mem_of_find? h
    refine ⟨hu, ?_⟩
    rw [hpath, Path.segments_canonical]
  · rintro ⟨hu, hsegs⟩
    have hpath : Path.canonical path = u.path := by
      rw [← ht.canonical_path hu, Path.canonical, Path.canonical, hsegs]
    rw [lookup?, hpath]
    cases h : t.find? u.path with
    | none => exact absurd (beq_self_eq_true u.path) (List.find?_eq_none.1 h u hu)
    | some v =>
      obtain ⟨hv, hpath'⟩ := mem_of_find? h
      rw [List.inj_on_of_nodup_map ht.nodup_paths hv hu hpath']

end ScriptCatalog.Declared

end ScriptRun

