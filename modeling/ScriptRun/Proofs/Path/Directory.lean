import ScriptRun.Proofs.Path.Canonical
import Mathlib.Data.List.TakeWhile

/-!
# Directories

The directory of a path is its text up to the last `/`. Of a canonical path that leaves all segments
but the last one, joined as they were.
-/

namespace ScriptRun.Path

lemma IsSegment.slash_notMem {s : String} (hs : IsSegment s) : '/' ∉ s.toList := by
  intro h
  cases hs.plain '/' h

lemma directory_of_no_slash {path : String} (h : '/' ∉ path.toList) : directory path = "" := by
  have hnone : path.toList.reverse.dropWhile (· != '/') = [] := by
    rw [List.dropWhile_eq_nil_iff]
    intro c hc
    rw [bne_iff_ne]
    rintro rfl
    exact h (List.mem_reverse.1 hc)
  rw [directory, hnone]
  rfl

lemma directory_of_toList {path : String} {dir name : List Char} (hname : '/' ∉ name)
    (h : path.toList = dir ++ '/' :: name) : directory path = String.ofList dir := by
  have hbehind : ∀ c ∈ name.reverse, (c != '/') = true := by
    intro c hc
    rw [bne_iff_ne]
    rintro rfl
    exact hname (List.mem_reverse.1 hc)
  have hrest : path.toList.reverse.dropWhile (· != '/') = '/' :: dir.reverse := by
    rw [h, List.reverse_append, List.reverse_cons, List.append_assoc,
      List.dropWhile_append_of_pos hbehind]
    rfl
  rw [directory, hrest, List.drop_one, List.tail_cons, List.reverse_reverse]

/-- The directory of joined segments is all of them but the last one, joined. -/
lemma directory_ofSegments_concat {segs : List String} {name : String} (hname : IsSegment name) :
    directory (ofSegments (segs ++ [name])) = ofSegments segs := by
  by_cases hsegs : segs = []
  · rw [hsegs, List.nil_append, ofSegments, String.intercalate_singleton,
      directory_of_no_slash hname.slash_notMem]
    rfl
  · have hjoined : (ofSegments (segs ++ [name])).toList =
        (ofSegments segs).toList ++ '/' :: name.toList := by
      rw [ofSegments, String.intercalate_append_of_ne_nil hsegs (List.cons_ne_nil name []),
        String.intercalate_singleton, String.toList_append, String.toList_append,
        List.append_assoc]
      rfl
    rw [directory_of_toList hname.slash_notMem hjoined, String.ofList_toList]

end ScriptRun.Path
