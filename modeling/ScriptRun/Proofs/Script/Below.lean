import ScriptRun.Proofs.Path.Respelling
import ScriptRun.Proofs.Path.Canonical
import ScriptRun.Proofs.Script.Resolution
import Mathlib.Data.List.DropRight

/-!
# Below a base and behind the root

A path below a base is read onto the segments of the base, from which each `..` takes one off as long
as there are any. So whatever the base, a path takes the same number of segments off its end and puts
its own behind what is left.

What is behind the root is told by segments as well: a location lies below the root if the segments
of the root begin its own, and the rest of them has one canonical spelling.
-/

namespace ScriptRun

namespace Path

/-- Pieces of a path are read onto a stack, from the left. -/
inductive Reads (stack : List String) : List (List Char) → List String → Prop
  | start : Reads stack [] stack
  | idle {pieces : List (List Char)} {piece : List Char} {segs : List String}
    (h : Reads stack pieces segs) (hidle : piece = [] ∨ piece = ['.']) :
    Reads stack (pieces ++ [piece]) segs
  | up {pieces : List (List Char)} {segs : List String} {last : String}
    (h : Reads stack pieces (segs ++ [last])) : Reads stack (pieces ++ [['.', '.']]) segs
  /-- From an empty stack nothing is taken. -/
  | stay {pieces : List (List Char)} (h : Reads stack pieces []) :
    Reads stack (pieces ++ [['.', '.']]) []
  | name {pieces : List (List Char)} {piece : List Char} {segs : List String}
    (h : Reads stack pieces segs) (hkept : ¬ (piece = [] ∨ piece = ['.']))
    (hname : piece ≠ ['.', '.']) : Reads stack (pieces ++ [piece]) (segs ++ [String.ofList piece])

lemma push_name {piece : List Char} (hkept : ¬ (piece = [] ∨ piece = ['.']))
    (hname : piece ≠ ['.', '.']) (stack : List String) :
    push stack piece = stack ++ [String.ofList piece] := by
  rw [push, if_neg hkept, if_neg hname]

lemma reads_foldl_push (stack : List String) (ps : List (List Char)) :
    Reads stack ps (ps.foldl push stack) := by
  induction ps using List.reverseRecOn with
  | nil => exact .start
  | append_singleton ps p ih =>
    rw [List.foldl_append, List.foldl_cons, List.foldl_nil]
    by_cases hidle : p = [] ∨ p = ['.']
    · rw [push_idle hidle]
      exact .idle ih hidle
    · by_cases hup : p = ['.', '.']
      · rw [hup, push_up]
        rcases List.eq_nil_or_concat' (ps.foldl push stack) with hnil | ⟨segs, last, hlast⟩
        · rw [hnil] at ih ⊢
          exact .stay ih
        · rw [hlast] at ih ⊢
          rw [List.dropLast_concat]
          exact .up ih
      · rw [push_name hidle hup]
        exact .name ih hidle hup

lemma Reads.foldl_push_eq {stack segs : List String} {ps : List (List Char)}
    (h : Reads stack ps segs) : ps.foldl push stack = segs := by
  induction h with
  | start => rfl
  | idle _ hidle ih =>
    rw [List.foldl_append, ih]
    exact push_idle hidle _
  | up _ ih =>
    rw [List.foldl_append, ih, List.foldl_cons, push_up, List.dropLast_concat, List.foldl_nil]
  | stay _ ih =>
    rw [List.foldl_append, ih, List.foldl_cons, push_up, List.dropLast_nil, List.foldl_nil]
  | name _ hkept hname ih =>
    rw [List.foldl_append, ih]
    exact push_name hkept hname _

lemma segments_below_iff {base path : String} {segs : List String} :
    segments (base ++ "/" ++ path) = segs ↔
      Reads (segments base) (path.toList.splitOnP isSeparator) segs := by
  rw [← under, segments_under, readOnto, pieces_eq_splitOnP]
  constructor
  · rintro rfl
    exact reads_foldl_push _ _
  · exact Reads.foldl_push_eq

lemma dropLast_rdrop (stack : List String) (n : Nat) :
    (stack.rdrop n).dropLast = stack.rdrop (n + 1) := by
  rw [List.rdrop_eq_reverse_drop_reverse, List.rdrop_eq_reverse_drop_reverse,
    List.dropLast_reverse, List.tail_drop]

/-- Pieces take the same number of segments off every stack that has as many. -/
lemma exists_foldl_push_eq (ps : List (List Char)) :
    ∃ up, ∀ stack, ps.foldl push stack = stack.rdrop up ++ ps.foldl push [] := by
  induction ps using List.reverseRecOn with
  | nil => exact ⟨0, fun stack => by rw [List.rdrop_zero]; exact (List.append_nil stack).symm⟩
  | append_singleton ps p ih =>
    obtain ⟨up, h⟩ := ih
    simp only [List.foldl_append, List.foldl_cons, List.foldl_nil]
    by_cases hidle : p = [] ∨ p = ['.']
    · refine ⟨up, fun stack => ?_⟩
      rw [push_idle hidle, push_idle hidle, h]
    · by_cases hup : p = ['.', '.']
      · subst hup
        rcases List.eq_nil_or_concat' (ps.foldl push []) with hnil | ⟨segs, last, hlast⟩
        · refine ⟨up + 1, fun stack => ?_⟩
          rw [push_up, push_up, h, hnil, List.append_nil, List.dropLast_nil, List.append_nil,
            dropLast_rdrop]
        · refine ⟨up, fun stack => ?_⟩
          rw [push_up, push_up, h, hlast, ← List.append_assoc, List.dropLast_concat,
            List.dropLast_concat]
      · refine ⟨up, fun stack => ?_⟩
        rw [push_name hidle hup, push_name hidle hup, h, List.append_assoc]

end Path

namespace Resolver

variable {r : Resolver} {path rest : String}

lemma fromRoot?_eq_some_iff_isCanonical :
    r.fromRoot? path = some rest ↔
      Path.IsCanonical rest ∧ Path.segments path = Path.segments r.root ++ Path.segments rest := by
  rw [fromRoot?_eq_some_iff]
  constructor
  · rintro ⟨segs, hrest, hpath, rfl⟩
    exact ⟨⟨_, fun _ => Path.isSegment_of_mem_segments, hrest⟩, hpath⟩
  · rintro ⟨hrest, hpath⟩
    exact ⟨_, (Path.canonical_eq_self_iff.2 hrest).symm, hpath, rfl⟩

lemma fromRoot?_eq_none_iff :
    r.fromRoot? path = none ↔ ¬ Path.segments r.root <+: Path.segments path := by
  rw [fromRoot?, Option.map_eq_none_iff, behind?_eq_none_iff]

/-- Below a base, a path is read onto the segments of the base: it takes some number of them off, or
all if there are less, and adds its own, which are ordinary. Behind the root, a path is spelled
canonically, and there is one such spelling exactly if the segments of the root begin those of the
location; else there is none. -/
theorem below_base_behind_root :
    (∀ base path segs, Path.segments (base ++ "/" ++ path) = segs ↔
      Path.Reads (Path.segments base) (path.toList.splitOnP Path.isSeparator) segs) ∧
    (∀ path, ∃ up, ∀ base, Path.segments (base ++ "/" ++ path) =
      (Path.segments base).rdrop up ++ Path.segments path) ∧
    (∀ path, ∀ s ∈ Path.segments path, Path.IsSegment s) ∧
    (∀ (r : Resolver) path rest, r.fromRoot? path = some rest ↔
      Path.IsCanonical rest ∧
        Path.segments path = Path.segments r.root ++ Path.segments rest) ∧
    (∀ (r : Resolver) path, Path.segments r.root <+: Path.segments path ↔
      ∃! rest, Path.IsCanonical rest ∧
        Path.segments path = Path.segments r.root ++ Path.segments rest) ∧
    ∀ (r : Resolver) path,
      r.fromRoot? path = none ↔ ¬ Path.segments r.root <+: Path.segments path := by
  refine ⟨fun base path segs => Path.segments_below_iff, ?_,
    fun path s => Path.isSegment_of_mem_segments,
    fun r path rest => fromRoot?_eq_some_iff_isCanonical, ?_,
    fun r path => fromRoot?_eq_none_iff⟩
  · intro path
    obtain ⟨up, h⟩ := Path.exists_foldl_push_eq (Path.pieces Path.isSeparator path.toList)
    refine ⟨up, fun base => ?_⟩
    rw [← Path.under, Path.segments_under]
    exact h _
  · intro r path
    constructor
    · intro hprefix
      have hsome : r.fromRoot? path ≠ none := fun hnone => fromRoot?_eq_none_iff.1 hnone hprefix
      obtain ⟨rest, hrest⟩ := Option.ne_none_iff_exists'.1 hsome
      refine ⟨rest, fromRoot?_eq_some_iff_isCanonical.1 hrest, fun other hother => ?_⟩
      rw [fromRoot?_eq_some_iff_isCanonical.2 hother] at hrest
      exact Option.some.inj hrest
    · rintro ⟨rest, ⟨-, h⟩, -⟩
      exact ⟨_, h.symm⟩

end Resolver

end ScriptRun
