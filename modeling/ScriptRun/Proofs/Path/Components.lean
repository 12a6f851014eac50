import ScriptRun.Proofs.Path.Ancestors

/-!
# Components of file-system paths

A file-system path is its components, however it is spelled, and they are known from its steps and
from whether it is rooted. Joining puts the components of the second path behind those of the first,
and going up leaves the last one out. So what is joined to two spellings of one path is one path.
-/

namespace ScriptRun.Path

variable {base path up a b : String}

/-! ### Components from steps -/

/-- The component that a step of a path stands for. -/
def stepComponent (piece : List Char) : Component := (component? piece).getD .here

lemma stepComponent_ne_root (piece : List Char) : stepComponent piece ≠ .root := by
  rw [stepComponent, component?]
  split
  · simp
  · split <;> simp

lemma map_stepComponent_filter (ps : List (List Char)) :
    (ps.filter isLive).map stepComponent = ps.filterMap component? := by
  induction ps with
  | nil => rfl
  | cons p ps ih =>
    cases hp : component? p with
    | none =>
      have hidle : ¬ isLive p = true := by simp [isLive, hp]
      rw [List.filter_cons_of_neg hidle, List.filterMap_cons_none hp, ih]
    | some c =>
      have hlive : isLive p = true := by simp [isLive, hp]
      rw [List.filter_cons_of_pos hlive, List.filterMap_cons_some hp, List.map_cons, ih,
        stepComponent, hp, Option.getD_some]

lemma components_eq_steps (path : String) :
    components path = (if isRooted path then [.root] else []) ++ (steps path).map stepComponent := by
  rw [components]
  split
  case isTrue hrooted =>
    obtain ⟨ps, hps⟩ := exists_pieces_of_rooted hrooted
    rw [steps_of_rooted hps, map_stepComponent_filter, hps]
    rfl
  case isFalse =>
    rw [steps]
    split
    case isTrue hhere =>
      obtain ⟨ps, hps⟩ := List.head?_eq_some_iff.1 hhere
      rw [hps]
      exact congrArg (Component.here :: ·) (map_stepComponent_filter ps).symm
    case isFalse hhere =>
      split
      case h_1 ps hps => exact absurd (congrArg List.head? hps) hhere
      case h_2 => exact (map_stepComponent_filter _).symm

/-- A path without components is the empty one. -/
lemma components_eq_nil_iff : components path = [] ↔ path = "" := by
  constructor
  · intro h
    rw [components_eq_steps, List.append_eq_nil_iff, List.map_eq_nil_iff] at h
    obtain ⟨hrooted, hsteps⟩ := h
    obtain ⟨p, ps, hps⟩ := List.exists_cons_of_ne_nil (pieces_ne_nil isSlash path.toList)
    by_cases hp : p = []
    · refine ((first_eq_nil_iff hps).1 hp).resolve_right fun hslash => ?_
      rw [if_pos hslash] at hrooted
      cases hrooted
    · rw [steps_of_relative hp hps] at hsteps
      cases hsteps
  · rintro rfl
    rfl

/-! ### Joining -/

lemma join_empty (hrel : isRooted path = false) : join "" path = path := by
  rw [join, hrel]
  exact String.empty_append

/-- Joining keeps the pieces of the base, but for an empty one at the end. -/
lemma pieces_join (hbase : base ≠ "") (hrel : isRooted path = false) :
    isRooted (join base path) = isRooted base ∧
      ∃ qs, qs ≠ [] ∧ pieces isSlash (join base path).toList = qs ++ pieces isSlash path.toList ∧
        (pieces isSlash base.toList = qs ∨ pieces isSlash base.toList = qs ++ [[]]) := by
  have hne : base.toList ≠ [] := fun h => hbase (String.toList_inj.1 h)
  have hhead {rest : List Char} {joined : String} (h : joined.toList = base.toList ++ rest) :
      isRooted joined = isRooted base := by
    rw [isRooted, isRooted, h, List.head?_append_of_ne_nil _ hne]
  have hempty : base.isEmpty = false := by simpa using hbase
  rw [join, hrel, hempty, if_neg Bool.false_ne_true, Bool.false_or]
  -- a `/` at the end of the base is the one between; the empty piece behind it goes
  by_cases hlast : (base.toList.getLast? == some '/') = true
  · obtain ⟨before, hbefore⟩ := List.getLast?_eq_some_iff.1 (beq_iff_eq.1 hlast)
    rw [if_pos hlast]
    refine ⟨hhead String.toList_append, pieces isSlash before, pieces_ne_nil isSlash before, ?_,
      .inr ?_⟩
    · rw [String.toList_append, hbefore, List.append_assoc, List.singleton_append,
        pieces_append_cons rfl]
    · rw [hbefore, pieces_append_cons rfl]
      rfl
  · have hlist : (base ++ "/" ++ path).toList = base.toList ++ '/' :: path.toList := by
      rw [String.toList_append, String.toList_append, List.append_assoc]
      rfl
    rw [if_neg hlast]
    refine ⟨hhead hlist, _, pieces_ne_nil isSlash base.toList, ?_, .inl rfl⟩
    rw [hlist, pieces_append_cons rfl]

/-- Two paths that begin alike, one of which goes on idly. -/
lemma steps_of_pieces {qs rest rest' : List (List Char)} (hqs : qs ≠ [])
    (ha : pieces isSlash a.toList = qs ++ rest) (hb : pieces isSlash b.toList = qs ++ rest')
    (hidle : rest.filter isLive = []) : steps b = steps a ++ rest'.filter isLive := by
  obtain ⟨q, qs, rfl⟩ := List.exists_cons_of_ne_nil hqs
  rw [List.cons_append] at ha hb
  by_cases hq : q = []
  · rw [hq] at ha hb
    rw [steps_of_rooted ha, steps_of_rooted hb, List.filter_append, List.filter_append, hidle,
      List.append_nil]
  · rw [steps_of_relative hq ha, steps_of_relative hq hb, List.filter_append, List.filter_append,
      hidle, List.append_nil, List.cons_append]

/-- Joining puts the components of a relative path behind those of the base. -/
lemma components_join (hbase : base ≠ "") (hrel : isRooted path = false) :
    components (join base path) =
      components base ++ (pieces isSlash path.toList).filterMap component? := by
  obtain ⟨hrooted, qs, hqs, hjoin, hpieces⟩ := pieces_join hbase hrel
  have hsteps : steps (join base path) =
      steps base ++ (pieces isSlash path.toList).filter isLive := by
    rcases hpieces with hpieces | hpieces
    · exact steps_of_pieces hqs (hpieces.trans (List.append_nil qs).symm) hjoin rfl
    · exact steps_of_pieces hqs hpieces hjoin rfl
  rw [components_eq_steps, components_eq_steps, hrooted, hsteps, List.map_append,
    map_stepComponent_filter, List.append_assoc]

/-- What is joined to two spellings of one path is one path. -/
lemma components_join_congr (h : components a = components b) (path : String) :
    components (join a path) = components (join b path) := by
  cases hrel : isRooted path with
  | true => rw [join, join, if_pos hrel, if_pos hrel]
  | false =>
    by_cases ha : a = ""
    · have hb : b = "" := by rwa [ha, eq_comm, components_eq_nil_iff.2 rfl, components_eq_nil_iff] at h
      rw [ha, hb]
    · have hb : b ≠ "" := by
        rintro rfl
        exact ha (components_eq_nil_iff.1 h)
      rw [components_join ha hrel, components_join hb hrel, h]

/-! ### A name and the directory above it -/

/-- The parent of a path has all its components but the last one. -/
lemma components_of_parent? (h : parent? path = some up) :
    ∃ c, components path = components up ++ [c] := by
  obtain ⟨-, hrooted, p, hp⟩ := parent?_spec h
  refine ⟨stepComponent p, ?_⟩
  rw [components_eq_steps, components_eq_steps, hrooted, hp, List.map_append, List.append_assoc]
  rfl

section Name

variable {name : String} (hslash : '/' ∉ name.toList)

include hslash

lemma pieces_name : pieces isSlash name.toList = [name.toList] := by
  refine pieces_of_forall fun c hc => ?_
  rw [isSlash, beq_eq_false_iff_ne]
  rintro rfl
  exact hslash hc

lemma isRooted_name : isRooted name = false := by
  rw [isRooted, beq_eq_false_iff_ne]
  exact fun h => hslash (List.mem_of_mem_head? h)

variable (hlive : isLive name.toList = true)

include hlive

lemma components_join_name (base : String) :
    components (join base name) = components base ++ [stepComponent name.toList] := by
  by_cases hbase : base = ""
  · rw [hbase, join_empty (isRooted_name hslash), components_eq_steps, isRooted_name hslash,
      steps_of_relative (isLive_iff.1 hlive).1 (pieces_name hslash)]
    rfl
  · rw [components_join hbase (isRooted_name hslash), pieces_name hslash,
      ← map_stepComponent_filter, List.filter_singleton, hlive]
    rfl

/-- Above a name that is joined to a path there is that path, though it may be spelled otherwise. -/
theorem parent?_join_name (base : String) :
    ∃ up, parent? (join base name) = some up ∧ components up = components base := by
  have hjoin := components_join_name hslash hlive base
  cases hup : parent? (join base name) with
  | none =>
    -- a path without a parent is the root or has no components, and the last one here is a name
    have hlast := congrArg List.getLast? hjoin
    rw [components_eq_steps, steps_of_parent?_none hup, List.map_nil, List.append_nil,
      List.getLast?_concat] at hlast
    split at hlast
    · exact absurd (Option.some.inj hlast).symm (stepComponent_ne_root name.toList)
    · cases hlast
  | some up =>
    obtain ⟨c, hc⟩ := components_of_parent? hup
    exact ⟨up, rfl, (List.append_inj_left' (hc.symm.trans hjoin) rfl)⟩

end Name

end ScriptRun.Path
