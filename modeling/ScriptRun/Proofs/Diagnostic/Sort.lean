import ScriptRun.Diagnostic.Basic
import ScriptRun.Proofs.Text.ByteOrder

/-!
# Listing diagnostics

Diagnostics are compared by level and file, so different ones may tie. A list of them is in order if
errors come first, those of one level by file, and those that tie as they were reported (`Listed`).
Sorting puts any list in order, and there is no other list that is in order.
-/

namespace ScriptRun.Diagnostic

variable {a b c d : Diagnostic} {ds l l' : List Diagnostic}

/-- Neither of two diagnostics is ahead of the other. -/
def Ties (a b : Diagnostic) : Prop := a.level = b.level ∧ a.file = b.file

instance : DecidableRel Ties := fun a b =>
  inferInstanceAs (Decidable (a.level = b.level ∧ a.file = b.file))

/-- The diagnostics of a list in order: errors first, those of one level by the bytes of their file
names, and those that tie as they were. -/
structure Listed (ds l : List Diagnostic) : Prop where
  perm : l.Perm ds
  errors_first : l.Pairwise fun a b => a.level = .error ∨ b.level = .warning
  by_file : l.Pairwise fun a b => a.level = b.level → Text.encode a.file ≤ Text.encode b.file
  stable : ∀ d ∈ ds, l.filter (Ties d) = ds.filter (Ties d)

namespace Ties

lemma refl (a : Diagnostic) : a.Ties a := ⟨rfl, rfl⟩

lemma symm (h : a.Ties b) : b.Ties a := ⟨h.1.symm, h.2.symm⟩

lemma trans (h : a.Ties b) (h' : b.Ties c) : a.Ties c := ⟨h.1.trans h'.1, h.2.trans h'.2⟩

end Ties

/-! ### Comparison -/

lemma ahead_iff :
    a.ahead b = true ↔ (a.level = .error ∧ b.level = .warning) ∨
      a.level = b.level ∧ a.file ≤ b.file := by
  rw [ahead]
  cases a.level <;> cases b.level <;> simp

lemma ahead_total (a b : Diagnostic) : (a.ahead b || b.ahead a) = true := by
  rw [Bool.or_eq_true, ahead_iff, ahead_iff]
  cases a.level <;> cases b.level <;> simp [String.le_total]

lemma ahead_trans (a b c : Diagnostic) (hab : a.ahead b = true) (hbc : b.ahead c = true) :
    a.ahead c = true := by
  rw [ahead_iff] at hab hbc ⊢
  rcases hab with ⟨ha, hb⟩ | ⟨ha, hab⟩
  · rcases hbc with ⟨hb', -⟩ | ⟨hc, -⟩
    · rw [hb] at hb'
      cases hb'
    · exact .inl ⟨ha, hc ▸ hb⟩
  · rcases hbc with ⟨hb, hc⟩ | ⟨hc, hbc⟩
    · exact .inl ⟨ha.trans hb, hc⟩
    · exact .inr ⟨ha.trans hc, String.le_trans hab hbc⟩

lemma ties_iff : a.Ties b ↔ a.ahead b = true ∧ b.ahead a = true := by
  rw [ahead_iff, ahead_iff, Ties]
  cases a.level <;> cases b.level <;> simp [le_antisymm_iff]

lemma ahead_refl (a : Diagnostic) : a.ahead a = true := (ties_iff.1 (.refl a)).1

/-! ### Lists in order -/

lemma errors_first_and_by_file_iff :
    (a.level = .error ∨ b.level = .warning) ∧
      (a.level = b.level → Text.encode a.file ≤ Text.encode b.file) ↔ a.ahead b = true := by
  rw [ahead_iff, Text.encode_le_iff]
  cases a.level <;> cases b.level <;> simp

lemma Listed.pairwise (h : Listed ds l) : l.Pairwise fun a b => a.ahead b = true :=
  (h.errors_first.and h.by_file).imp errors_first_and_by_file_iff.1

/-- Two sorted lists of the same diagnostics are one list if those that tie stand in one order. -/
lemma eq_of_pairwise_ahead (hperm : l.Perm l') (hl : l.Pairwise fun a b => a.ahead b = true)
    (hl' : l'.Pairwise fun a b => a.ahead b = true)
    (hties : ∀ d ∈ l, l.filter (Ties d) = l'.filter (Ties d)) : l = l' := by
  induction l generalizing l' with
  | nil => exact hperm.nil_eq
  | cons a l ih =>
    cases l' with
    | nil => exact absurd hperm.eq_nil (List.cons_ne_nil a l)
    | cons b l' =>
      obtain ⟨ha, hrest⟩ := List.pairwise_cons.1 hl
      obtain ⟨hb, hrest'⟩ := List.pairwise_cons.1 hl'
      -- each of the two first ones is ahead of the other, so they are the first of those that tie
      have hab : a.Ties b := by
        refine ties_iff.2 ⟨?_, ?_⟩
        · rcases List.mem_cons.1 (hperm.mem_iff.2 List.mem_cons_self) with rfl | hmem
          · exact ahead_refl b
          · exact ha b hmem
        · rcases List.mem_cons.1 (hperm.mem_iff.1 List.mem_cons_self) with rfl | hmem
          · exact ahead_refl a
          · exact hb a hmem
      have hfirst := hties a List.mem_cons_self
      rw [List.filter_cons, List.filter_cons, if_pos (decide_eq_true (Ties.refl a)),
        if_pos (decide_eq_true hab)] at hfirst
      obtain rfl := (List.cons.inj hfirst).1
      refine congrArg (a :: ·) (ih hperm.cons_inv hrest hrest' fun d hmem => ?_)
      have hd := hties d (List.mem_cons_of_mem a hmem)
      rw [List.filter_cons, List.filter_cons] at hd
      split at hd
      case isTrue => exact (List.cons.inj hd).2
      case isFalse => exact hd

/-- Sorting leaves those that tie in the order that they had. -/
lemma filter_sort (d : Diagnostic) (ds : List Diagnostic) :
    (sort ds).filter (Ties d) = ds.filter (Ties d) := by
  have hkept : (ds.filter (Ties d)).Sublist (sort ds) := by
    refine List.sublist_mergeSort ahead_trans ahead_total ?_ List.filter_sublist
    refine List.pairwise_of_forall_mem_list fun a ha b hb => ?_
    have hda : d.Ties a := of_decide_eq_true (List.mem_filter.1 ha).2
    have hdb : d.Ties b := of_decide_eq_true (List.mem_filter.1 hb).2
    exact (ties_iff.1 (hda.symm.trans hdb)).1
  have hlength : (ds.filter (Ties d)).length = ((sort ds).filter (Ties d)).length :=
    ((List.mergeSort_perm ds ahead).filter _).length_eq.symm
  have hall := hkept.filter (Ties d)
  rw [List.filter_filter] at hall
  simp only [Bool.and_self] at hall
  exact (hall.eq_of_length hlength).symm

lemma listed_sort (ds : List Diagnostic) : Listed ds (sort ds) := by
  have hsorted : (sort ds).Pairwise fun a b => a.ahead b = true :=
    List.pairwise_mergeSort ahead_trans ahead_total ds
  exact
    { perm := List.mergeSort_perm ds ahead
      errors_first := hsorted.imp fun h => (errors_first_and_by_file_iff.2 h).1
      by_file := hsorted.imp fun h => (errors_first_and_by_file_iff.2 h).2
      stable := fun d _ => filter_sort d ds }

/-- Comparison by level and file is a total preorder, in which those tie that have both in common. A
list is in order exactly if it is what sorting gives: that is in order, and nothing else is. Sorting
it again leaves it as it is. -/
theorem sort_settled :
    ((∀ a b : Diagnostic, a.ahead b = true ∨ b.ahead a = true) ∧
      (∀ a b c : Diagnostic, a.ahead b = true → b.ahead c = true → a.ahead c = true) ∧
      ∀ a b : Diagnostic, a.level = b.level ∧ a.file = b.file ↔
        a.ahead b = true ∧ b.ahead a = true) ∧
    (∀ ds l, Listed ds l ↔ l = sort ds) ∧
    ∀ ds, sort (sort ds) = sort ds := by
  refine ⟨⟨?_, ahead_trans, fun a b => ties_iff⟩, ?_, ?_⟩
  · intro a b
    exact Bool.or_eq_true _ _ ▸ ahead_total a b
  · intro ds l
    constructor
    · intro h
      have hsort := listed_sort ds
      refine eq_of_pairwise_ahead (h.perm.trans hsort.perm.symm) h.pairwise hsort.pairwise ?_
      intro d hd
      rw [h.stable d (h.perm.mem_iff.1 hd), filter_sort]
    · rintro rfl
      exact listed_sort ds
  · intro ds
    exact List.mergeSort_of_pairwise (listed_sort ds).pairwise

/-- Two errors that tie stay as they were, and a name comes before one with a greater character. -/
theorem sort_settled_ties :
    let report (level : Level) (message file : String) := (make level "" message).withFile file
    sort [report .warning "a" "lib/😀", report .error "b" "z", report .warning "c" "lib/～",
        report .error "a" "z"] =
      [report .error "b" "z", report .error "a" "z", report .warning "c" "lib/～",
        report .warning "a" "lib/😀"] := by
  intro report
  obtain ⟨-, hlisted, -⟩ := sort_settled
  refine ((hlisted _ _).1 ⟨by decide, by decide, ?_, by decide⟩).symm
  simp only [Text.encode_le_iff]
  decide

end ScriptRun.Diagnostic
