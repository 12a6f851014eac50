import ScriptRun.Proofs.Path.Components
import ScriptRun.Proofs.Settings.Precedence

/-!
# The project of a directory

The search for a project goes up from a directory by the text of its path, and looks for the project
file where each of these texts leads. So it looks at the places that the path comes through, the
last first. Without `..` these are the directory and those above it, as far up as the path says; with
`..` they need not be above it.
-/

namespace ScriptRun

open ScriptRun.Path

/-- The nodes come through, with their names, the latest first. -/
abbrev Trail := List (String × FileNode)

/-! ### Following pieces -/

namespace Trail

/-- A trail ends in a directory. -/
def IsDirectory (nodes : Trail) : Prop :=
  ∃ here above, nodes = here :: above ∧ here.2.isDirectory = true

variable {nodes nodes' : Trail} {piece : List Char} {ps : List (List Char)}

lemma isDirectory_of_follow (h : FileNode.follow nodes piece = .ok nodes') : nodes.IsDirectory := by
  cases nodes with
  | nil => cases h
  | cons here above =>
    cases hdir : here.2.isDirectory with
    | true => exact ⟨here, above, rfl, hdir⟩
    | false =>
      rw [FileNode.follow, hdir] at h
      cases h

lemma follow_idle (hidle : ¬isLive piece = true) (h : nodes.IsDirectory) :
    FileNode.follow nodes piece = .ok nodes := by
  obtain ⟨here, above, rfl, hdir⟩ := h
  have hpiece : piece = [] ∨ piece = ['.'] := by
    rw [isLive_iff] at hidle
    simpa only [not_and_or, not_not] using hidle
  rw [FileNode.follow, hdir]
  exact if_pos hpiece

lemma follow_name {here : String × FileNode} {above : Trail} (hdir : here.2.isDirectory = true)
    (hlive : isLive piece = true) (hup : piece ≠ ['.', '.']) :
    FileNode.follow (here :: above) piece =
      if FileNode.longestName < (String.ofList piece).utf8ByteSize then .error .unusable
      else
        match here.2.child? (String.ofList piece) with
        | some next => .ok ((String.ofList piece, next) :: here :: above)
        | none => .error .notFound := by
  obtain ⟨hempty, hhere⟩ := isLive_iff.1 hlive
  have hidle : ¬(piece = [] ∨ piece = ['.']) := not_or.2 ⟨hempty, hhere⟩
  rw [FileNode.follow, hdir]
  exact (if_neg hidle).trans (if_neg hup)

/-- A name leads one level down. -/
lemma follow_name_ok (hlive : isLive piece = true) (hup : piece ≠ ['.', '.'])
    (h : FileNode.follow nodes piece = .ok nodes') : ∃ next, nodes' = next :: nodes := by
  obtain ⟨here, above, rfl, hdir⟩ := isDirectory_of_follow h
  rw [follow_name hdir hlive hup] at h
  split at h
  case isTrue => cases h
  case isFalse =>
    split at h
    case h_1 next _ =>
      cases h
      exact ⟨_, rfl⟩
    case h_2 => cases h

lemma foldlM_cons_iff : (piece :: ps).foldlM FileNode.follow nodes = .ok nodes' ↔
    ∃ next, FileNode.follow nodes piece = .ok next ∧
      ps.foldlM FileNode.follow next = .ok nodes' := by
  rw [List.foldlM_cons]
  cases FileNode.follow nodes piece with
  | error x => exact ⟨nofun, nofun⟩
  | ok next =>
    constructor
    · intro h
      exact ⟨next, rfl, h⟩
    · rintro ⟨_, ⟨⟩, h⟩
      exact h

lemma isDirectory_of_foldlM (h : ps.foldlM FileNode.follow nodes = .ok nodes')
    (hdir : nodes'.IsDirectory) : nodes.IsDirectory := by
  cases ps with
  | nil =>
    cases h
    exact hdir
  | cons p ps =>
    obtain ⟨next, hnext, -⟩ := foldlM_cons_iff.1 h
    exact isDirectory_of_follow hnext

/-- On the way to a directory the pieces that do not count may be left out. -/
lemma foldlM_filter (hdir : nodes'.IsDirectory) :
    (ps.filter isLive).foldlM FileNode.follow nodes = .ok nodes' ↔
      ps.foldlM FileNode.follow nodes = .ok nodes' := by
  induction ps generalizing nodes with
  | nil => rfl
  | cons p ps ih =>
    by_cases hp : isLive p = true
    · rw [List.filter_cons_of_pos hp, foldlM_cons_iff, foldlM_cons_iff]
      simp only [ih]
    · rw [List.filter_cons_of_neg hp, foldlM_cons_iff]
      constructor
      · intro h
        exact ⟨nodes, follow_idle hp (isDirectory_of_foldlM h hdir), ih.1 h⟩
      · rintro ⟨next, hnext, h⟩
        rw [follow_idle hp (isDirectory_of_follow hnext)] at hnext
        cases hnext
        exact ih.2 h

end Trail

namespace FileTree

variable {t : FileTree} {path up : String} {nodes : Trail} {ps qs : List (List Char)}

/-! ### Where paths lead -/

/-- Where a path starts. -/
def origin (t : FileTree) (path : String) : List (List Char) :=
  if isRooted path then [] else t.cwd.map String.toList

/-- Where some pieces lead from the root. -/
def walk (t : FileTree) (ps : List (List Char)) : Except LookupError Trail :=
  ps.foldlM FileNode.follow [("", t.root)]

/-- Where a path leads. The empty one leads where it starts. -/
def reach (t : FileTree) (path : String) : Except LookupError Trail := t.walk (t.pathPieces path)

/-- The places that a path comes through from where it starts, the last first. -/
def stops (t : FileTree) (path : String) : List (Except LookupError Trail) :=
  (steps path).inits.reverse.map fun ps => t.walk (t.origin path ++ ps)

/-- The pieces of a path behind the root. -/
def relativePieces (path : String) : List (List Char) :=
  if isRooted path then (pieces isSlash path.toList).drop 1 else pieces isSlash path.toList

lemma pathPieces_eq (t : FileTree) (path : String) :
    t.pathPieces path = t.origin path ++ relativePieces path := by
  rw [pathPieces, origin, relativePieces]
  split <;> rfl

lemma walk_append_iff : t.walk (ps ++ qs) = .ok nodes ↔
    ∃ between, t.walk ps = .ok between ∧ qs.foldlM FileNode.follow between = .ok nodes := by
  rw [walk, List.foldlM_append, walk]
  cases ps.foldlM FileNode.follow [("", t.root)] with
  | error x => exact ⟨nofun, nofun⟩
  | ok between =>
    constructor
    · intro h
      exact ⟨between, rfl, h⟩
    · rintro ⟨_, ⟨⟩, h⟩
      exact h

lemma walk_concat_iff {piece : List Char} : t.walk (ps ++ [piece]) = .ok nodes ↔
    ∃ between, t.walk ps = .ok between ∧ FileNode.follow between piece = .ok nodes := by
  simp only [walk_append_iff, List.foldlM_cons, List.foldlM_nil, bind_pure]

lemma relativePieces_cases (path : String) :
    steps path = (relativePieces path).filter isLive ∨
      ∃ ps, relativePieces path = ['.'] :: ps ∧ steps path = ['.'] :: ps.filter isLive := by
  rw [relativePieces]
  split
  case isTrue hrooted =>
    obtain ⟨ps, hps⟩ := exists_pieces_of_rooted hrooted
    rw [steps_of_rooted hps, hps]
    exact .inl rfl
  case isFalse =>
    rw [steps]
    split
    case h_1 ps hps => exact .inr ⟨ps, hps, rfl⟩
    case h_2 => exact .inl rfl

/-- A path leads to a directory exactly if its steps do. -/
lemma reach_iff (hdir : nodes.IsDirectory) :
    t.reach path = .ok nodes ↔ t.walk (t.origin path ++ steps path) = .ok nodes := by
  rw [reach, pathPieces_eq, walk_append_iff, walk_append_iff]
  rcases relativePieces_cases path with h | ⟨ps, hps, h⟩
  · simp only [h, Trail.foldlM_filter hdir]
  · simp only [hps, h, Trail.foldlM_cons_iff, Trail.foldlM_filter hdir]

/-! ### A file in the place that a path leads to -/

/-- A name is joined behind the pieces of a path, of which an empty one at the end goes. -/
lemma relativePieces_join {name : String} (hname : '/' ∉ name.toList) (path : String) :
    isRooted (join path name) = isRooted path ∧
      ∃ qs, relativePieces (join path name) = qs ++ [name.toList] ∧
        (relativePieces path = qs ∨ relativePieces path = qs ++ [[]]) := by
  by_cases hempty : path = ""
  · rw [hempty, join_empty (isRooted_name hname)]
    refine ⟨isRooted_name hname, [], ?_, .inr rfl⟩
    rw [relativePieces, isRooted_name hname, pieces_name hname]
    rfl
  · obtain ⟨hrooted, qs, hqs, hjoin, hpath⟩ := pieces_join hempty (isRooted_name hname)
    have hdrop (rest : List (List Char)) : (qs ++ rest).drop 1 = qs.drop 1 ++ rest :=
      List.drop_append_of_le_length (List.length_pos_iff.2 hqs)
    refine ⟨hrooted, if isRooted path then qs.drop 1 else qs, ?_, ?_⟩
    · rw [relativePieces, hrooted, hjoin, pieces_name hname, hdrop]
      split <;> rfl
    · rw [relativePieces]
      refine hpath.imp (fun h => ?_) (fun h => ?_)
      · rw [h]
      · rw [h, hdrop]
        split <;> rfl

lemma walk_of_trailing {before : List (List Char)} (h : qs = ps ∨ qs = ps ++ [[]])
    (hwalk : t.walk (before ++ qs) = .ok nodes) : t.walk (before ++ ps) = .ok nodes := by
  rcases h with rfl | rfl
  · exact hwalk
  · rw [← List.append_assoc] at hwalk
    obtain ⟨between, hbetween, hfollow⟩ := walk_concat_iff.1 hwalk
    rw [Trail.follow_idle (by decide) (Trail.isDirectory_of_follow hfollow)] at hfollow
    cases hfollow
    exact hbetween

/-- Whether there is a project file in a place. -/
def holdsProject : Except LookupError Trail → Bool
  | .ok (here :: _) => (here.2.child? projectFile).isSome
  | _ => false

/-- Whether the path of a project file below a directory is not too long. -/
def fits (path : String) : Bool := decide ((join path projectFile).utf8ByteSize ≤ longestPath)

lemma exists_join_eq (path : String) :
    ∃ sep, (sep = "" ∨ sep = "/") ∧ join path projectFile = path ++ sep ++ projectFile := by
  rw [join, if_neg (by decide)]
  split
  · exact ⟨"", .inl rfl, by rw [String.append_empty]⟩
  · exact ⟨"/", .inr rfl, rfl⟩

lemma trail_of_reach (hempty : path ≠ "") (hnul : '\x00' ∉ path.toList)
    (hlong : path.utf8ByteSize ≤ longestPath) : t.trail path = t.reach path := by
  have hempty' : path.isEmpty = false := by simpa using hempty
  have hnul' : path.toList.contains '\x00' = false := by simpa using hnul
  rw [trail, hempty', hnul', if_neg Bool.false_ne_true, Bool.false_or, if_neg (by simpa using hlong)]
  rfl

lemma reach_of_trail (h : t.trail path = .ok nodes) :
    t.reach path = .ok nodes ∧ path ≠ "" ∧ '\x00' ∉ path.toList ∧
      path.utf8ByteSize ≤ longestPath := by
  rw [trail] at h
  split at h
  case isTrue => cases h
  case isFalse hempty =>
    split at h
    case isTrue => cases h
    case isFalse hlong =>
      rw [Bool.or_eq_true, not_or] at hlong
      exact ⟨h, by simpa using hempty, by simpa using hlong.1, by simpa using hlong.2⟩

/-- Below a directory there is the path of a project file if it is not too long, and a project file
is in the place. -/
lemma contains_projectFile (hreach : t.reach path = .ok nodes) (hdir : nodes.IsDirectory)
    (hnul : '\x00' ∉ path.toList) :
    t.contains (join path projectFile) = (fits path && holdsProject (t.reach path)) := by
  obtain ⟨here, above, rfl, hhere⟩ := hdir
  have hname : '/' ∉ projectFile.toList := by decide
  obtain ⟨hrooted, qs, hqs, hpath⟩ := relativePieces_join hname path
  obtain ⟨sep, hsep, hjoin⟩ := exists_join_eq path
  have hnul' : '\x00' ∉ (join path projectFile).toList := by
    rw [hjoin, String.toList_append, String.toList_append]
    rcases hsep with rfl | rfl <;> simp [hnul, projectFile]
  have hempty : join path projectFile ≠ "" := by
    intro h
    rw [hjoin, ← String.toList_inj, String.toList_append] at h
    exact absurd (List.append_eq_nil_iff.1 h).2 (by decide)
  have hfollow : t.reach (join path projectFile) =
      FileNode.follow (here :: above) projectFile.toList := by
    have hbefore : t.walk (t.origin path ++ qs) = .ok (here :: above) := by
      rw [reach, pathPieces_eq] at hreach
      exact walk_of_trailing hpath hreach
    rw [reach, pathPieces_eq, origin, hrooted, ← origin, hqs, ← List.append_assoc, walk,
      List.foldlM_append, ← walk, hbefore]
    change List.foldlM FileNode.follow (here :: above) [projectFile.toList] = _
    rw [List.foldlM_cons]
    exact bind_pure _
  rw [hreach, fits]
  by_cases hlong : (join path projectFile).utf8ByteSize ≤ longestPath
  · rw [contains, lookup, trail_of_reach hempty hnul' hlong, hfollow,
      Trail.follow_name hhere (by decide) (by decide), if_neg (by decide), String.ofList_toList,
      decide_eq_true hlong, Bool.true_and, holdsProject]
    cases here.2.child? projectFile <;> rfl
  · have htrail : t.trail (join path projectFile) = .error .unusable := by
      rw [trail, if_neg (by simpa using hempty), if_pos (by simp [not_le.1 hlong])]
    rw [contains, lookup, htrail, decide_eq_false hlong]
    rfl

/-! ### Ancestors of a directory -/

/-- What is above a directory by the text is a directory. -/
lemma isDirectory_of_parent? (hup : parent? path = some up) (hreach : t.reach path = .ok nodes)
    (hdir : nodes.IsDirectory) : ∃ nodes', t.reach up = .ok nodes' ∧ nodes'.IsDirectory := by
  obtain ⟨-, hrooted, p, hp⟩ := parent?_spec hup
  rw [reach_iff hdir, hp, ← List.append_assoc, walk_concat_iff] at hreach
  obtain ⟨nodes', hwalk, hfollow⟩ := hreach
  have hdir' := Trail.isDirectory_of_follow hfollow
  refine ⟨nodes', ?_, hdir'⟩
  rw [reach_iff hdir', origin, hrooted, ← origin]
  exact hwalk

/-- The ancestors of a directory are spelled as the directory is, up to some place, and lead to
directories. -/
lemma of_mem_ancestors {d : String} (hd : d ∈ ancestors path) (hreach : t.reach path = .ok nodes)
    (hdir : nodes.IsDirectory) :
    d.toList <+: path.toList ∧ isRooted d = isRooted path ∧
      ∃ nodes', t.reach d = .ok nodes' ∧ nodes'.IsDirectory := by
  induction path using parent_induction generalizing nodes with
  | top path hup =>
    rw [ancestors_eq, hup, List.mem_singleton] at hd
    subst hd
    exact ⟨List.prefix_rfl, rfl, nodes, hreach, hdir⟩
  | step path up hup ih =>
    rw [ancestors_eq, hup, List.mem_cons] at hd
    rcases hd with rfl | hd
    · exact ⟨List.prefix_rfl, rfl, nodes, hreach, hdir⟩
    · obtain ⟨nodes', hreach', hdir'⟩ := isDirectory_of_parent? hup hreach hdir
      obtain ⟨hbegins, hrooted, hd⟩ := ih hd hreach' hdir'
      have hparent := parent?_spec hup
      exact ⟨hbegins.trans hparent.spelled, hrooted.trans hparent.rooted, hd⟩

/-- The ancestors of a directory lead to the places that its path comes through. -/
lemma map_reach_ancestors (hreach : t.reach path = .ok nodes) (hdir : nodes.IsDirectory) :
    (ancestors path).map t.reach = t.stops path := by
  induction path using parent_induction generalizing nodes with
  | top path hup =>
    have hhere := hreach.trans ((reach_iff hdir).1 hreach).symm
    rw [ancestors_eq, hup, stops]
    rw [steps_of_parent?_none hup] at hhere ⊢
    simp [hhere]
  | step path up hup ih =>
    obtain ⟨nodes', hreach', hdir'⟩ := isDirectory_of_parent? hup hreach hdir
    obtain ⟨-, hrooted, p, hp⟩ := parent?_spec hup
    have hhere := hreach.trans ((reach_iff hdir).1 hreach).symm
    have hstops : t.stops path = t.walk (t.origin path ++ steps path) :: t.stops up := by
      rw [stops, stops, hp, List.inits_append, origin, origin, hrooted]
      simp
    rw [ancestors_eq, hup, List.map_cons, ih hreach' hdir', hstops, hhere]

/-- On the way down by names the places come through are those that the last one is below. -/
lemma stops_of_names (hlive : ∀ p ∈ ps, isLive p = true) (hup : ['.', '.'] ∉ ps)
    (hwalk : t.walk ps = .ok nodes) :
    ps.inits.reverse.map t.walk ++ [.ok []] = nodes.tails.map .ok := by
  induction ps using List.reverseRecOn generalizing nodes with
  | nil =>
    cases hwalk
    rfl
  | append_singleton ps p ih =>
    rw [List.mem_append, List.mem_singleton, not_or] at hup
    obtain ⟨hlive, hp⟩ := List.forall_mem_append.1 hlive
    obtain ⟨between, hbetween, hfollow⟩ := walk_concat_iff.1 hwalk
    obtain ⟨next, rfl⟩ :=
      Trail.follow_name_ok (hp p (List.mem_singleton_self p)) (fun h => hup.2 h.symm) hfollow
    rw [List.tails_cons, List.map_cons, ← ih hlive hup.1 hbetween, List.inits_append, ← hwalk]
    simp

lemma fits_of_begins {d : String} (h : d.toList <+: path.toList) (hfits : fits path = true) :
    fits d = true := by
  obtain ⟨rest, hrest⟩ := h
  obtain ⟨sep, hsep, hjoin⟩ := exists_join_eq d
  obtain ⟨sep', -, hjoin'⟩ := exists_join_eq path
  have hpath : path = d ++ String.ofList rest := by
    rw [← String.toList_inj, String.toList_append, String.toList_ofList, hrest]
  rw [fits, decide_eq_true_eq] at hfits ⊢
  cases rest with
  | nil =>
    rw [hpath] at hfits
    simpa using hfits
  | cons c rest =>
    have hsize : sep.utf8ByteSize ≤ (String.ofList (c :: rest)).utf8ByteSize := by
      rcases hsep with rfl | rfl
      · exact Nat.zero_le _
      · refine Nat.pos_of_ne_zero fun h => ?_
        have hempty := congrArg String.toList (String.utf8ByteSize_eq_zero_iff.1 h)
        rw [String.toList_ofList] at hempty
        cases hempty
    rw [hjoin, String.utf8ByteSize_append, String.utf8ByteSize_append]
    rw [hjoin', hpath, String.utf8ByteSize_append, String.utf8ByteSize_append,
      String.utf8ByteSize_append] at hfits
    omega

lemma size_le_of_fits (h : fits path = true) : path.utf8ByteSize ≤ longestPath := by
  obtain ⟨sep, -, hjoin⟩ := exists_join_eq path
  rw [fits, decide_eq_true_eq, hjoin, String.utf8ByteSize_append, String.utf8ByteSize_append] at h
  omega

/-- The search looks for the project file where the ancestors lead, those left out whose spelling
is too long. -/
lemma projectRoot?_eq (hreach : t.reach path = .ok nodes) (hdir : nodes.IsDirectory)
    (hnul : '\x00' ∉ path.toList) :
    Configuration.projectRoot? t path =
      (ancestors path).find? fun d => fits d && holdsProject (t.reach d) := by
  rw [Configuration.projectRoot?, ← List.head?_filter, ← List.head?_filter]
  refine congrArg List.head? (List.filter_congr fun d hd => ?_)
  obtain ⟨hbegins, -, nodes', hreach', hdir'⟩ := of_mem_ancestors hd hreach hdir
  exact contains_projectFile hreach' hdir' fun h => hnul (hbegins.subset h)

lemma map_reach_projectRoot? (hreach : t.reach path = .ok nodes) (hdir : nodes.IsDirectory)
    (hnul : '\x00' ∉ path.toList) (hfits : fits path = true) :
    (Configuration.projectRoot? t path).map t.reach = (t.stops path).find? holdsProject := by
  rw [projectRoot?_eq hreach hdir hnul, ← map_reach_ancestors hreach hdir, List.find?_map,
    ← List.head?_filter, ← List.head?_filter]
  congr 2
  refine List.filter_congr fun d hd => ?_
  obtain ⟨hbegins, -⟩ := of_mem_ancestors hd hreach hdir
  rw [fits_of_begins hbegins hfits]
  rfl

end FileTree

/-! ### The nearest project -/

open FileTree

/-- The search for the project of a directory ends, since every step up is spelled shorter. It takes
the first place with a project file among those that the path of the directory comes through, the
last first; of a spelling so long that the name of the file does not fit behind it, it sees no file.
A rooted path without `..` comes through the directory and all those above it, so the project found
is the nearest one, and none is found exactly if none is there. -/
theorem nearest_project {t : FileTree} {start : String} {here : String × FileNode} {above : Trail}
    (hstart : t.trail start = .ok (here :: above)) (hdir : here.2.isDirectory = true) :
    (∀ path up, parent? path = some up → up.length < path.length) ∧
    (∀ path, ancestors path = path ::
      match parent? path with
      | some up => ancestors up
      | none => []) ∧
    Configuration.projectRoot? t start =
      (ancestors start).find? (fun d => fits d && holdsProject (t.reach d)) ∧
    (ancestors start).map t.reach = t.stops start ∧
    (fits start = true →
      (Configuration.projectRoot? t start).map t.reach = (t.stops start).find? holdsProject) ∧
    (fits start = true → isRooted start = true → ['.', '.'] ∉ steps start →
      (Configuration.projectRoot? t start).map t.trail =
        ((here :: above).tails.map .ok).find? holdsProject) ∧
    ∀ env userFile c, Configuration.forDirectory t env userFile start = .ok c →
      c.projectRoot = Configuration.projectRoot? t start := by
  obtain ⟨hreach, hempty, hnul, hlong⟩ := reach_of_trail hstart
  have hdir' : Trail.IsDirectory (here :: above) := ⟨here, above, rfl, hdir⟩
  refine ⟨fun path up => length_lt_of_parent?, ancestors_eq, projectRoot?_eq hreach hdir' hnul,
    map_reach_ancestors hreach hdir', map_reach_projectRoot? hreach hdir' hnul, ?_, ?_⟩
  · intro hfits hrooted hup
    obtain ⟨ps, hps⟩ := exists_pieces_of_rooted hrooted
    have hlive : ∀ p ∈ steps start, isLive p = true := by
      rw [steps_of_rooted hps]
      exact fun p hp => (List.mem_filter.1 hp).2
    have horigin : t.origin start = [] := if_pos hrooted
    have hwalk := (reach_iff hdir').1 hreach
    rw [horigin, List.nil_append] at hwalk
    have hstops : t.stops start = (steps start).inits.reverse.map t.walk := by
      rw [stops, horigin]
      rfl
    have htrail : (Configuration.projectRoot? t start).map t.trail =
        (Configuration.projectRoot? t start).map t.reach := by
      cases hroot : Configuration.projectRoot? t start with
      | none => rfl
      | some d =>
        obtain ⟨hbegins, hrooted', -⟩ :=
          of_mem_ancestors (List.mem_of_find?_eq_some hroot) hreach hdir'
        have hd : d ≠ "" := by
          rintro rfl
          rw [hrooted] at hrooted'
          cases hrooted'
        have hnul' : '\x00' ∉ d.toList := fun h => hnul (hbegins.subset h)
        have hsize := size_le_of_fits (fits_of_begins hbegins hfits)
        exact congrArg some (trail_of_reach hd hnul' hsize)
    rw [htrail, map_reach_projectRoot? hreach hdir' hnul hfits, hstops,
      ← stops_of_names hlive hup hwalk, List.find?_append]
    simp [holdsProject]
  · intro env userFile c hc
    obtain ⟨_, _, -, -, -, rfl⟩ := Configuration.forDirectory_eq_ok_iff.1 hc
    rfl

/-! ### Up by the text and up in the tree -/

/-- A tree with a project in `/a/b`. -/
def FileTree.nested : FileTree where
  root := .directory [("a", .directory [("b", .directory [("hearth.toml", .file [])])])]
  cwd := []

/-- Idle segments and slashes at the end make no difference. -/
theorem nearest_project_nested :
    (Configuration.projectRoot? .nested "//a/./b/.//").map FileTree.nested.trail =
      some (FileTree.nested.trail "/a/b") := by
  have hstart : FileTree.nested.trail "//a/./b/.//" = .ok (_ :: _) := rfl
  obtain ⟨-, -, -, -, -, hnearest, -⟩ := nearest_project hstart rfl
  rw [hnearest (by decide +kernel) (by decide +kernel) (by decide +kernel)]
  rfl

/-- Up from `/a/b/..` by the text is `/a/b`, whose project is found, although there is none in `/a`
or above it. -/
theorem project_below_start :
    ∃ here above, FileTree.nested.trail "/a/b/.." = .ok (here :: above) ∧
      here.2.isDirectory = true ∧
      ((here :: above).tails.map .ok).find? holdsProject = none ∧
      Configuration.projectRoot? .nested "/a/b/.." = some "/a/b" := by
  refine ⟨_, _, rfl, rfl, rfl, ?_⟩
  decide +kernel

end ScriptRun
