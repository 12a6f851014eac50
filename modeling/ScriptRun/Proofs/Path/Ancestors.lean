import ScriptRun.Path.Native
import ScriptRun.Proofs.Path.Segments
import Mathlib.Data.List.DropRight
import Mathlib.Data.List.Infix

/-!
# Going up by the text

The parent of a file-system path is found by its text: the last component is left out, whatever it
is. So going up from `a/b/..` leads to `a/b` and not to what is above `a`. Here is what that does to
the pieces of a path that count (`steps`): the last of them goes, and the rest stays as it was.
-/

namespace ScriptRun.Path

/-! ### Pieces between slashes -/

/-- Whether a piece stands for a component. -/
def isLive (piece : List Char) : Bool := (component? piece).isSome

/-- The pieces of a path that stand for components, and a `.` that begins it. -/
def steps (path : String) : List (List Char) :=
  match pieces isSlash path.toList with
  | ['.'] :: ps => ['.'] :: ps.filter isLive
  | ps => ps.filter isLive

lemma isLive_iff {piece : List Char} : isLive piece = true ↔ piece ≠ [] ∧ piece ≠ ['.'] := by
  rw [isLive, component?, ← not_or]
  by_cases hidle : piece = [] ∨ piece = ['.']
  · simp [hidle]
  · rw [if_neg hidle]
    split <;> simp [hidle]

lemma mem_pieces {cs piece : List Char} (h : piece ∈ pieces isSlash cs) : '/' ∉ piece := by
  induction cs generalizing piece with
  | nil =>
    rw [pieces, List.mem_singleton] at h
    simp [h]
  | cons c cs ih =>
    rw [pieces] at h
    split at h
    case isTrue =>
      rcases List.mem_cons.1 h with rfl | h
      · simp
      · exact ih h
    case isFalse hc =>
      obtain ⟨p, ps, hp⟩ := List.exists_cons_of_ne_nil (pieces_ne_nil isSlash cs)
      rw [hp] at h ih
      rcases List.mem_cons.1 h with rfl | h
      · have hne : '/' ≠ c := fun heq => hc (by rw [← heq]; rfl)
        simp [hne, ih]
      · exact ih (List.mem_cons_of_mem p h)

lemma toList_ofPieces (ps : List (List Char)) : (ofPieces ps).toList = ['/'].intercalate ps := by
  rw [ofPieces, String.toList_intercalate, List.map_map]
  congr
  exact List.map_id'' (fun _ => String.toList_ofList) ps

lemma pieces_ofPieces {ps : List (List Char)} (hne : ps ≠ []) (h : ∀ p ∈ ps, '/' ∉ p) :
    pieces isSlash (ofPieces ps).toList = ps := by
  rw [pieces_eq_splitOnP, toList_ofPieces]
  exact List.splitOn_intercalate '/' h hne

lemma intercalate_pieces (cs : List Char) : ['/'].intercalate (pieces isSlash cs) = cs := by
  rw [pieces_eq_splitOnP]
  exact List.intercalate_splitOn '/'

lemma prefix_intercalate {ps qs : List (List Char)} (h : qs <+: ps) :
    ['/'].intercalate qs <+: ['/'].intercalate ps := by
  induction qs generalizing ps with
  | nil => exact ⟨_, rfl⟩
  | cons q qs ih =>
    obtain ⟨ps, rfl, hps⟩ := List.cons_prefix_iff.1 h
    cases qs with
    | nil =>
      cases ps with
      | nil => exact List.prefix_rfl
      | cons p ps =>
        rw [List.intercalate_singleton, List.intercalate_cons_cons, List.append_assoc]
        exact List.prefix_append q _
    | cons r qs =>
      obtain ⟨ps, rfl, -⟩ := List.cons_prefix_iff.1 hps
      rw [List.intercalate_cons_cons, List.intercalate_cons_cons]
      exact (List.prefix_append_right_inj _).2 (ih hps)

/-! ### Trimming -/

lemma trimPieces_eq (ps : List (List Char)) : trimPieces ps = ps.rdropWhile (!isLive ·) := by
  rw [trimPieces, List.rdropWhile]
  congr
  funext p
  simp [isLive]

lemma prefix_trimPieces (ps : List (List Char)) : trimPieces ps <+: ps := by
  rw [trimPieces_eq]
  exact List.rdropWhile_prefix _ ps

lemma prefix_dropLast_trimPieces (ps : List (List Char)) :
    trimPieces (trimPieces ps).dropLast <+: ps := by
  have hdropped : (trimPieces ps).dropLast <+: trimPieces ps := List.dropLast_prefix _
  exact (prefix_trimPieces _).trans (hdropped.trans (prefix_trimPieces ps))

/-- What is trimmed off does not count. -/
lemma filter_trimPieces (ps : List (List Char)) :
    (trimPieces ps).filter isLive = ps.filter isLive := by
  rw [trimPieces_eq]
  induction ps using List.reverseRecOn with
  | nil => rfl
  | append_singleton ps p ih =>
    by_cases hp : isLive p = true
    · rw [List.rdropWhile_concat_neg _ _ _ (by simp [hp])]
    · rw [List.rdropWhile_concat_pos _ _ _ (by simp [hp]), ih, List.filter_append]
      simp [hp]

lemma filter_isLive_of_trimPieces_nil {ps : List (List Char)} (h : trimPieces ps = []) :
    ps.filter isLive = [] := by
  rw [← filter_trimPieces, h]
  rfl

/-- What is left after trimming ends in a piece that counts. -/
lemma filter_isLive_of_trimPieces {ps : List (List Char)} (h : trimPieces ps ≠ []) :
    ∃ p, ps.filter isLive = (trimPieces (trimPieces ps).dropLast).filter isLive ++ [p] := by
  have hlast : isLive ((trimPieces ps).getLast h) = true := by
    have hnot := List.rdropWhile_last_not (!isLive ·) ps (by rwa [← trimPieces_eq])
    simpa [trimPieces_eq] using hnot
  refine ⟨(trimPieces ps).getLast h, ?_⟩
  rw [filter_trimPieces, ← filter_trimPieces ps]
  conv_lhs => rw [← List.dropLast_append_getLast h]
  rw [List.filter_append, List.filter_singleton, hlast]
  rfl

/-! ### The steps of a path -/

section Steps

variable {path up : String} {first : List Char} {ps qs : List (List Char)}

lemma steps_of_rooted (h : pieces isSlash path.toList = [] :: ps) :
    steps path = ps.filter isLive := by
  rw [steps, h]
  rfl

lemma steps_of_relative (hfirst : first ≠ []) (h : pieces isSlash path.toList = first :: ps) :
    steps path = first :: ps.filter isLive := by
  rw [steps, h]
  split
  case h_1 heq =>
    cases heq
    rfl
  case h_2 hhere =>
    have hlive : isLive first = true := isLive_iff.2 ⟨hfirst, fun heq => hhere ps (by rw [heq])⟩
    exact List.filter_cons_of_pos hlive

lemma filter_pieces_ofPieces (h : ∀ p ∈ qs, '/' ∉ p) :
    (pieces isSlash (ofPieces qs).toList).filter isLive = qs.filter isLive := by
  cases qs with
  | nil => rfl
  | cons q qs => rw [pieces_ofPieces (List.cons_ne_nil q qs) h]

/-- Only a rooted path and the empty one begin with an empty piece. -/
lemma first_eq_nil_iff (h : pieces isSlash path.toList = first :: ps) :
    first = [] ↔ path = "" ∨ isRooted path = true := by
  rw [isRooted, ← String.toList_inj]
  cases hpath : path.toList with
  | nil =>
    rw [hpath] at h
    cases h
    simp
  | cons c cs =>
    rw [hpath, pieces] at h
    split at h
    case isTrue hc =>
      cases h
      simpa [isSlash] using hc
    case isFalse hc =>
      obtain ⟨q, qs, hq⟩ := List.exists_cons_of_ne_nil (pieces_ne_nil isSlash cs)
      rw [hq] at h
      cases h
      simpa [isSlash] using hc

lemma exists_pieces_of_rooted (h : isRooted path = true) :
    ∃ ps, pieces isSlash path.toList = [] :: ps := by
  obtain ⟨first, ps, hps⟩ := List.exists_cons_of_ne_nil (pieces_ne_nil isSlash path.toList)
  exact ⟨ps, (first_eq_nil_iff hps).2 (.inr h) ▸ hps⟩

lemma isRooted_of_pieces (h : pieces isSlash path.toList = first :: ps) (hfirst : first ≠ []) :
    isRooted path = false :=
  Bool.eq_false_iff.2 fun hrooted => hfirst ((first_eq_nil_iff h).2 (.inr hrooted))

end Steps

/-! ### Parents -/

/-- What is left of a path when its last component is left out. -/
structure IsParent (up path : String) : Prop where
  spelled : up.toList <+: path.toList
  rooted : isRooted up = isRooted path
  steps : ∃ p, Path.steps path = Path.steps up ++ [p]

section Parents

variable {path up : String}

lemma isParent_of_rooted {ps : List (List Char)} (hps : pieces isSlash path.toList = [] :: ps)
    (hne : trimPieces ps ≠ []) :
    IsParent ("/" ++ ofPieces (trimPieces (trimPieces ps).dropLast)) path := by
  obtain ⟨q, hq⟩ := filter_isLive_of_trimPieces hne
  have hbegins := prefix_dropLast_trimPieces ps
  generalize trimPieces (trimPieces ps).dropLast = qs at hq hbegins ⊢
  have hup : ("/" ++ ofPieces qs).toList = '/' :: ['/'].intercalate qs := by
    rw [String.toList_append, toList_ofPieces]
    rfl
  have hpath : path.toList = '/' :: ['/'].intercalate ps := by
    cases ps with
    | nil => exact absurd rfl hne
    | cons p ps =>
      rw [← intercalate_pieces path.toList, hps, List.intercalate_cons_cons]
      rfl
  constructor
  · rw [hup, hpath]
    exact (List.prefix_cons_inj '/').2 (prefix_intercalate hbegins)
  · rw [isRooted, isRooted, hup, hpath]
    rfl
  · have hcut : pieces isSlash ("/" ++ ofPieces qs).toList =
        [] :: pieces isSlash (ofPieces qs).toList := by
      rw [hup, ← toList_ofPieces]
      rfl
    have hslash : ∀ p ∈ qs, '/' ∉ p := by
      intro p hp
      have hmem : p ∈ pieces isSlash path.toList := by
        rw [hps]
        exact List.mem_cons_of_mem [] (hbegins.subset hp)
      exact mem_pieces hmem
    refine ⟨q, ?_⟩
    rw [steps_of_rooted hps, steps_of_rooted hcut, filter_pieces_ofPieces hslash, hq]

lemma isParent_of_relative {first : List Char} {ps : List (List Char)}
    (hps : pieces isSlash path.toList = first :: ps) (hfirst : first ≠ [])
    (hne : trimPieces ps ≠ []) :
    IsParent (ofPieces (first :: trimPieces (trimPieces ps).dropLast)) path := by
  obtain ⟨q, hq⟩ := filter_isLive_of_trimPieces hne
  have hbegins := prefix_dropLast_trimPieces ps
  generalize trimPieces (trimPieces ps).dropLast = qs at hq hbegins ⊢
  have hbegins' : first :: qs <+: first :: ps := (List.prefix_cons_inj first).2 hbegins
  have hslash : ∀ p ∈ first :: qs, '/' ∉ p := by
    intro p hp
    have hmem : p ∈ pieces isSlash path.toList := by
      rw [hps]
      exact hbegins'.subset hp
    exact mem_pieces hmem
  have hcut := pieces_ofPieces (List.cons_ne_nil first qs) hslash
  constructor
  · rw [toList_ofPieces, ← intercalate_pieces path.toList, hps]
    exact prefix_intercalate hbegins'
  · rw [isRooted_of_pieces hcut hfirst, isRooted_of_pieces hps hfirst]
  · refine ⟨q, ?_⟩
    rw [steps_of_relative hfirst hps, steps_of_relative hfirst hcut, hq, List.cons_append]

/-- The parent of a path is the path without its last step. -/
theorem parent?_spec (h : parent? path = some up) : IsParent up path := by
  rw [parent?] at h
  split at h
  case h_1 ps hps =>
    split at h
    case h_1 => cases h
    case h_2 htrim =>
      rw [← htrim] at h
      cases h
      exact isParent_of_rooted hps (by rw [htrim]; exact List.cons_ne_nil _ _)
  case h_2 first ps hfirst hps =>
    split at h
    case h_1 htrim =>
      cases h
      refine ⟨⟨_, rfl⟩, (isRooted_of_pieces hps hfirst).symm, first, ?_⟩
      rw [steps_of_relative hfirst hps, filter_isLive_of_trimPieces_nil htrim]
      rfl
    case h_2 htrim =>
      rw [← htrim] at h
      cases h
      exact isParent_of_relative hps hfirst (by rw [htrim]; exact List.cons_ne_nil _ _)
  case h_3 => cases h

/-- A path without a parent has no step that could be left out. -/
lemma steps_of_parent?_none (h : parent? path = none) : steps path = [] := by
  rw [parent?] at h
  split at h
  case h_1 ps hps =>
    split at h
    case h_1 htrim => rw [steps_of_rooted hps, filter_isLive_of_trimPieces_nil htrim]
    case h_2 => cases h
  case h_2 => split at h <;> cases h
  case h_3 hnil => exact absurd hnil (pieces_ne_nil _ _)

/-- Going up comes to an end: a parent is spelled shorter. -/
lemma length_lt_of_parent? (h : parent? path = some up) : up.length < path.length := by
  obtain ⟨hspelled, -, p, hp⟩ := parent?_spec h
  have hne : up.toList ≠ path.toList := by
    intro heq
    rw [String.toList_inj.1 heq] at hp
    exact List.cons_ne_nil p [] (List.self_eq_append_right.1 hp)
  rw [← String.length_toList, ← String.length_toList]
  exact hspelled.length_le.lt_of_ne fun hlen => hne (hspelled.eq_of_length hlen)

/-! ### Ancestors -/

lemma ancestorsUpTo_eq {n m : Nat} (hn : path.length < n) (hm : path.length < m) :
    ancestorsUpTo n path = ancestorsUpTo m path := by
  induction n generalizing m path with
  | zero => cases hn
  | succ n ih =>
    cases m with
    | zero => cases hm
    | succ m =>
      rw [ancestorsUpTo, ancestorsUpTo]
      cases hup : parent? path with
      | none => rfl
      | some up =>
        have hlt := length_lt_of_parent? hup
        exact congrArg (path :: ·) (ih (by omega) (by omega))

/-- The ancestors of a path are the path and the ancestors of its parent: the bound on their number
leaves none of them out. -/
theorem ancestors_eq (path : String) :
    ancestors path = path ::
      match parent? path with
      | some up => ancestors up
      | none => [] := by
  rw [ancestors, ancestorsUpTo]
  cases hup : parent? path with
  | none => rfl
  | some up =>
    have hlt := length_lt_of_parent? hup
    exact congrArg (path :: ·) (ancestorsUpTo_eq hlt (Nat.lt_succ_self _))

/-- Induction from the topmost ancestor down. -/
theorem parent_induction {P : String → Prop} (top : ∀ path, parent? path = none → P path)
    (step : ∀ path up, parent? path = some up → P up → P path) (path : String) : P path := by
  induction hn : path.length using Nat.strongRecOn generalizing path with
  | ind n ih =>
    cases hup : parent? path with
    | none => exact top path hup
    | some up => exact step path up hup (ih _ (hn ▸ length_lt_of_parent? hup) up rfl)

end Parents

end ScriptRun.Path
