import ScriptRun.Path.Lexical
import Mathlib.Data.List.Induction
import Mathlib.Tactic.Lemma

/-!
# The segments of a path

A path is read from the left, one piece at a time (`Reading`). Whatever it was, its segments are
ordinary ones: a path that is made of them has just these segments, and it can be read onto any
stack without taking anything off.
-/

namespace ScriptRun.Path

/-! ### Pieces -/

lemma pieces_eq_splitOnP (sep : Char → Bool) (cs : List Char) :
    pieces sep cs = cs.splitOnP sep := by
  induction cs with
  | nil => rw [pieces, List.splitOnP_nil]
  | cons c cs ih => rw [pieces, ih, List.splitOnP_cons_eq_if_modifyHead]

lemma pieces_of_forall {sep : Char → Bool} {cs : List Char} (h : ∀ c ∈ cs, sep c = false) :
    pieces sep cs = [cs] := by
  induction cs with
  | nil => rfl
  | cons c cs ih =>
    obtain ⟨hc, hcs⟩ := List.forall_mem_cons.1 h
    rw [pieces, hc, ih hcs]
    rfl

lemma readOnto_of_forall {piece : List Char} (h : ∀ c ∈ piece, isSeparator c = false)
    (stack : List String) : readOnto stack piece = push stack piece := by
  rw [readOnto, pieces_of_forall h]
  rfl

/-! ### Reading from the left -/

/-- A path is read piece by piece, each piece doing to the stack what it does. -/
inductive Reading : List Char → List String → Prop
  | first {piece : List Char} (hp : ∀ c ∈ piece, isSeparator c = false) :
    Reading piece (push [] piece)
  | next {path piece : List Char} {stack : List String} {sep : Char} (h : Reading path stack)
    (hs : isSeparator sep = true) (hp : ∀ c ∈ piece, isSeparator c = false) :
    Reading (path ++ sep :: piece) (push stack piece)

lemma Reading.readOnto_eq {path : List Char} {segs : List String} (h : Reading path segs) :
    readOnto [] path = segs := by
  induction h with
  | first hp => exact readOnto_of_forall hp []
  | next _ hs hp ih => rw [readOnto_append_cons hs, ih, readOnto_of_forall hp]

/-- Every path can be read. -/
lemma exists_reading (path : List Char) : ∃ segs, Reading path segs := by
  -- on the path from its last character, which begins a new piece or lengthens the last one
  induction path using List.reverseRecOn with
  | nil => exact ⟨_, .first nofun⟩
  | append_singleton path c ih =>
    obtain ⟨segs, h⟩ := ih
    cases hc : isSeparator c with
    | true => exact ⟨_, .next h hc nofun⟩
    | false =>
      have longer {piece : List Char} (hp : ∀ c ∈ piece, isSeparator c = false) :
          ∀ c' ∈ piece ++ [c], isSeparator c' = false :=
        List.forall_mem_append.2 ⟨hp, List.forall_mem_singleton.2 hc⟩
      cases h with
      | first hp => exact ⟨_, .first (longer hp)⟩
      | next h hs hp =>
        rw [List.append_assoc, List.cons_append]
        exact ⟨_, .next h hs (longer hp)⟩

/-- The segments of a path are what it reads as. -/
theorem segments_eq_iff {path : String} {segs : List String} :
    segments path = segs ↔ Reading path.toList segs := by
  refine ⟨?_, Reading.readOnto_eq⟩
  rintro rfl
  obtain ⟨segs, h⟩ := exists_reading path.toList
  rwa [segments, h.readOnto_eq]

/-! ### Ordinary segments -/

/-- A piece that is kept when it is read. -/
structure IsSegment (s : String) : Prop where
  ne_empty : s ≠ ""
  ne_here : s ≠ "."
  ne_up : s ≠ ".."
  plain : ∀ c ∈ s.toList, isSeparator c = false

lemma push_of_isSegment {s : String} (hs : IsSegment s) (stack : List String) :
    push stack s.toList = stack ++ [s] := by
  have hempty : s.toList ≠ [] := fun h => hs.ne_empty (String.toList_inj.1 h)
  have hhere : s.toList ≠ ['.'] := fun h => hs.ne_here (String.toList_inj.1 h)
  have hup : s.toList ≠ ['.', '.'] := fun h => hs.ne_up (String.toList_inj.1 h)
  rw [push, if_neg (not_or.2 ⟨hempty, hhere⟩), if_neg hup, String.ofList_toList]

lemma isSegment_of_mem_push {stack : List String} {piece : List Char}
    (hstack : ∀ s ∈ stack, IsSegment s) (hp : ∀ c ∈ piece, isSeparator c = false) :
    ∀ s ∈ push stack piece, IsSegment s := by
  intro s hs
  rw [push] at hs
  split at hs
  case isTrue => exact hstack s hs
  case isFalse hkept =>
    obtain ⟨hempty, hhere⟩ := not_or.1 hkept
    split at hs
    case isTrue => exact hstack s (List.dropLast_subset stack hs)
    case isFalse hup =>
      rcases List.mem_append.1 hs with hs | hs
      · exact hstack s hs
      · obtain rfl := List.mem_singleton.1 hs
        refine ⟨?_, ?_, ?_, by rwa [String.toList_ofList]⟩ <;>
          · rw [Ne, ← String.toList_inj, String.toList_ofList]
            assumption

lemma Reading.isSegment {path : List Char} {segs : List String} (h : Reading path segs) :
    ∀ s ∈ segs, IsSegment s := by
  induction h with
  | first hp => exact isSegment_of_mem_push nofun hp
  | next _ _ hp ih => exact isSegment_of_mem_push ih hp

/-- The segments of a path are ordinary, whatever the path. -/
lemma isSegment_of_mem_segments {path s : String} (hs : s ∈ segments path) : IsSegment s :=
  (segments_eq_iff.1 rfl).isSegment s hs

lemma toList_ofSegments_cons_cons (s t : String) (segs : List String) :
    (ofSegments (s :: t :: segs)).toList = s.toList ++ '/' :: (ofSegments (t :: segs)).toList := by
  rw [ofSegments, String.intercalate_cons_cons, String.toList_append, String.toList_append,
    List.append_assoc]
  rfl

/-- Segments that are joined are cut into the same segments again. -/
lemma pieces_ofSegments {segs : List String} (hne : segs ≠ []) (h : ∀ s ∈ segs, IsSegment s) :
    pieces isSeparator (ofSegments segs).toList = segs.map String.toList := by
  induction segs with
  | nil => exact absurd rfl hne
  | cons s segs ih =>
    obtain ⟨hs, hsegs⟩ := List.forall_mem_cons.1 h
    cases segs with
    | nil =>
      rw [ofSegments, String.intercalate_singleton, pieces_of_forall hs.plain]
      rfl
    | cons t segs =>
      rw [toList_ofSegments_cons_cons, pieces_append_cons rfl, pieces_of_forall hs.plain,
        ih (List.cons_ne_nil t segs) hsegs]
      rfl

lemma foldl_push_of_isSegment {segs : List String} (h : ∀ s ∈ segs, IsSegment s)
    (stack : List String) : (segs.map String.toList).foldl push stack = stack ++ segs := by
  induction segs generalizing stack with
  | nil => exact (List.append_nil stack).symm
  | cons s segs ih =>
    obtain ⟨hs, hsegs⟩ := List.forall_mem_cons.1 h
    rw [List.map_cons, List.foldl_cons, push_of_isSegment hs, ih hsegs, List.append_assoc]
    rfl

/-- Reading segments that are joined puts them onto the stack. -/
lemma readOnto_ofSegments {segs : List String} (h : ∀ s ∈ segs, IsSegment s)
    (stack : List String) : readOnto stack (ofSegments segs).toList = stack ++ segs := by
  cases segs with
  | nil => exact (List.append_nil stack).symm
  | cons s segs =>
    rw [readOnto, pieces_ofSegments (List.cons_ne_nil s segs) h, foldl_push_of_isSegment h]

lemma segments_ofSegments {segs : List String} (h : ∀ s ∈ segs, IsSegment s) :
    segments (ofSegments segs) = segs :=
  readOnto_ofSegments h []

/-- The canonical spelling of a path has its segments. -/
lemma segments_canonical (path : String) : segments (canonical path) = segments path :=
  segments_ofSegments fun _ => isSegment_of_mem_segments

lemma canonical_canonical (path : String) : canonical (canonical path) = canonical path :=
  congrArg ofSegments (segments_canonical path)

end ScriptRun.Path
