import ScriptRun.Path.Scheme
import ScriptRun.Proofs.Path.Segments

/-!
# Canonical spellings

The paths that are spelled canonically are those that consist of ordinary segments with one `/`
between them. Cutting a canonical spelling at its separators gives the segments that it was joined
from, none of which is empty. So no separator begins it and no two of them stand side by side: it has
no scheme, and if it is absolute, then by a drive letter.
-/

namespace ScriptRun.Path

/-! ### Which paths they are -/

/-- A path of ordinary segments with one `/` between them. -/
def IsCanonical (path : String) : Prop :=
  ∃ segs, (∀ s ∈ segs, IsSegment s) ∧ path = ofSegments segs

lemma isCanonical_canonical (path : String) : IsCanonical (canonical path) :=
  ⟨segments path, fun _ => isSegment_of_mem_segments, rfl⟩

lemma canonical_eq_self_iff {path : String} : canonical path = path ↔ IsCanonical path := by
  constructor
  · intro h
    rw [← h]
    exact isCanonical_canonical path
  · rintro ⟨segs, hsegs, rfl⟩
    rw [canonical, segments_ofSegments hsegs]

lemma IsSegment.isCanonical {s : String} (hs : IsSegment s) : IsCanonical s :=
  ⟨[s], List.forall_mem_singleton.2 hs, String.intercalate_singleton.symm⟩

/-- A canonical path takes nothing off the stack that it is read onto. -/
lemma IsCanonical.readOnto_eq {path : String} (h : IsCanonical path) (stack : List String) :
    readOnto stack path.toList = stack ++ segments path := by
  obtain ⟨segs, hsegs, rfl⟩ := h
  rw [readOnto_ofSegments hsegs, segments_ofSegments hsegs]

/-! ### Separators -/

/-- Nothing stands empty between the separators of a canonical spelling. -/
lemma nil_notMem_pieces_canonical {path : String} (h : canonical path ≠ "") :
    [] ∉ pieces isSeparator (canonical path).toList := by
  have hne : segments path ≠ [] := by
    intro hnil
    rw [canonical, hnil] at h
    exact h rfl
  rw [canonical, pieces_ofSegments hne fun _ => isSegment_of_mem_segments]
  rintro hmem
  obtain ⟨s, hs, hnil⟩ := List.mem_map.1 hmem
  exact (isSegment_of_mem_segments hs).ne_empty (String.toList_inj.1 hnil)

lemma canonical_ne_empty_of_toList {path : String} {c : Char} {cs : List Char}
    (h : (canonical path).toList = c :: cs) : canonical path ≠ "" := by
  intro hempty
  rw [hempty] at h
  cases h

/-- No separator begins a canonical spelling. -/
lemma canonical_head {path : String} {c : Char} {cs : List Char}
    (h : (canonical path).toList = c :: cs) : isSeparator c = false := by
  have hempty := nil_notMem_pieces_canonical (canonical_ne_empty_of_toList h)
  cases hc : isSeparator c with
  | false => rfl
  | true =>
    rw [h, pieces, if_pos hc] at hempty
    exact absurd List.mem_cons_self hempty

/-- No two slashes stand side by side in a canonical spelling. -/
lemma canonical_ne_slashes (path : String) (a b : List Char) :
    (canonical path).toList ≠ a ++ '/' :: '/' :: b := by
  intro h
  have hne : canonical path ≠ "" := by
    intro hempty
    rw [hempty] at h
    exact List.append_ne_nil_of_right_ne_nil a (List.cons_ne_nil _ _) h.symm
  have hempty := nil_notMem_pieces_canonical hne
  rw [h, pieces_append_cons rfl, pieces, if_pos (by rfl)] at hempty
  exact hempty (List.mem_append_right _ List.mem_cons_self)

/-! ### Schemes -/

lemma eq_of_cutAtMark {cs scheme rest : List Char} (h : cutAtMark cs = some (scheme, rest)) :
    cs = scheme ++ ':' :: '/' :: '/' :: rest := by
  induction cs using cutAtMark.induct generalizing scheme with
  | case1 => cases h
  | case2 tail =>
    rw [cutAtMark] at h
    cases h
    rfl
  | case3 c tail hmark ih =>
    rw [cutAtMark] at h
    · obtain ⟨⟨scheme', rest'⟩, hcut, heq⟩ := Option.map_eq_some_iff.1 h
      cases heq
      rw [List.cons_append, ← ih hcut]
    · exact hmark

/-- A canonical spelling has no scheme. -/
lemma cutScheme?_canonical (path : String) : cutScheme? (canonical path) = none := by
  have hcut : cutAtMark (canonical path).toList = none := by
    cases h : cutAtMark (canonical path).toList with
    | none => rfl
    | some x =>
      have heq := eq_of_cutAtMark h
      rw [← List.singleton_append, ← List.append_assoc] at heq
      exact absurd heq (canonical_ne_slashes path _ _)
  rw [cutScheme?, hcut]

/-! ### Drives -/

/-- A path begins with a drive letter, a colon and a separator. -/
def HasDrive (path : String) : Prop :=
  ∃ c sep cs, c.isAlpha = true ∧ isSeparator sep = true ∧ path.toList = c :: ':' :: sep :: cs

lemma isAbsolute_iff {path : String} :
    isAbsolute path = true ↔
      (∃ sep cs, isSeparator sep = true ∧ path.toList = sep :: cs) ∨ HasDrive path := by
  rw [isAbsolute, HasDrive]
  match path.toList with
  | [] | [c] | [c, d] => simp
  | c :: d :: e :: cs =>
    simp only [Bool.or_eq_true, Bool.and_eq_true, beq_iff_eq, List.cons.injEq]
    constructor
    · rintro (hc | ⟨⟨hc, rfl⟩, he⟩)
      · exact .inl ⟨c, _, hc, rfl, rfl⟩
      · exact .inr ⟨c, e, cs, hc, he, rfl, rfl, rfl, rfl⟩
    · rintro (⟨_, _, hc, rfl, -⟩ | ⟨_, _, _, hc, he, rfl, rfl, rfl, -⟩)
      · exact .inl hc
      · exact .inr ⟨⟨hc, rfl⟩, he⟩

/-- A canonical spelling is absolute by its drive and not otherwise. -/
lemma isAbsolute_canonical (path : String) :
    isAbsolute (canonical path) = true ↔ HasDrive (canonical path) := by
  rw [isAbsolute_iff]
  refine or_iff_right ?_
  rintro ⟨sep, cs, hsep, h⟩
  rw [canonical_head h] at hsep
  cases hsep

end ScriptRun.Path
