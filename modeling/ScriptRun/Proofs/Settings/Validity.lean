import ScriptRun.Proofs.Settings.Precedence
import ScriptRun.Script.Resolver

/-!
# Settings in force are proper

Settings are checked when they are read from a file, and what the environment sets is checked when
it is laid over them. So all settings that are in force have passed the checks of their layer, and
every run serves an interface with a proper name.

The checks of a user's settings let empty include paths through, which those of a project and the
environment do not. Such a path makes the working directory of a run one of its include
directories.
-/

namespace ScriptRun

lemma isApiName_iff {name : String} :
    isApiName name = true ↔
      name ≠ "" ∧ ∀ c ∈ name.toList, c.isAlphanum = true ∨ c = '-' ∨ c = '_' := by
  simp [isApiName, or_assoc]

/-! ### Layers -/

namespace Environment

lemma notMem_splitPaths (list : String) : "" ∉ splitPaths list := by
  simp [splitPaths_eq_filter]

/-- Laying what the environment may set over proper settings gives proper settings. -/
lemma proper_laidOn {env : Environment} {c : ProjectSettings} (henv : env.Proper)
    (hc : c.Proper) : (env.laidOn c).Proper where
  serverApi api h := by
    rw [serverApi?_laidOn, Option.or_eq_some_iff] at h
    rcases h with h | ⟨-, h⟩
    · exact henv.serverApi api h
    · exact hc.serverApi api h
  root h := by
    rw [root?_laidOn, Option.or_eq_some_iff] at h
    rcases h with h | ⟨-, h⟩
    · exact henv.root h
    · exact hc.root h
  search := by
    rw [includePaths_laidOn]
    cases env.includePath with
    | none => exact hc.search
    | some list => exact notMem_splitPaths list

end Environment

lemma ProjectSettings.proper_empty : ProjectSettings.empty.Proper :=
  ⟨nofun, nofun, List.not_mem_nil⟩

lemma UserSettings.CountsAs.proper {files : FileTree} {path : String} {c : UserSettings}
    (h : c.CountsAs files path) : c.Proper := by
  rcases h with ⟨_, -, -, hc⟩ | ⟨-, rfl⟩
  · exact hc
  · exact nofun

namespace Configuration

/-- A configuration that is in force somewhere: that of a directory, or that of a project file. -/
def InForce (files : FileTree) (env : Environment) (userFile : String) (c : Configuration) : Prop :=
  (∃ dir, forDirectory files env userFile dir = .ok c) ∨
    ∃ file, forFile files env userFile file = .ok c

variable {files : FileTree} {env : Environment} {userFile : String} {c : Configuration}

theorem forFile_eq_ok_iff {file : String} :
    forFile files env userFile file = .ok c ↔
      ∃ project user, ProjectSettings.InFile files file project ∧ user.CountsAs files userFile ∧
        env.Proper ∧ c = ⟨env.laidOn project, user, Path.parent? file⟩ := by
  simp only [forFile, bind_eq_ok_iff, ProjectSettings.load_eq_ok_iff,
    Environment.applyTo_eq_ok_iff]
  constructor
  · rintro ⟨project, hproject, _, ⟨henv, rfl⟩, hc⟩
    cases hc
    exact ⟨project, _, hproject, UserSettings.loadOrEmpty_eq_iff.1 rfl, henv, rfl⟩
  · rintro ⟨project, user, hproject, huser, henv, rfl⟩
    rw [← UserSettings.loadOrEmpty_eq_iff] at huser
    exact ⟨project, hproject, _, ⟨henv, rfl⟩, huser ▸ rfl⟩

lemma InProject.proper {root? : Option String} {project : ProjectSettings}
    (h : InProject files root? project) : project.Proper := by
  cases root? with
  | none => exact h ▸ ProjectSettings.proper_empty
  | some root =>
    obtain ⟨_, -, -, hproject⟩ := h
    exact hproject

/-- What a configuration in force is made of. -/
lemma InForce.layers (h : InForce files env userFile c) :
    ∃ project : ProjectSettings, project.Proper ∧ env.Proper ∧ c.project = env.laidOn project ∧
      c.user.CountsAs files userFile := by
  rcases h with ⟨dir, h⟩ | ⟨file, h⟩
  · obtain ⟨project, user, hproject, huser, henv, rfl⟩ := forDirectory_eq_ok_iff.1 h
    exact ⟨project, hproject.proper, henv, rfl, huser⟩
  · obtain ⟨project, user, ⟨_, -, -, hproject⟩, huser, henv, rfl⟩ := forFile_eq_ok_iff.1 h
    exact ⟨project, hproject, henv, rfl, huser⟩

lemma InForce.project_proper (h : InForce files env userFile c) : c.project.Proper := by
  obtain ⟨project, hproject, henv, hlaid, -⟩ := h.layers
  rw [hlaid]
  exact Environment.proper_laidOn henv hproject

lemma InForce.user_proper (h : InForce files env userFile c) : c.user.Proper := by
  obtain ⟨_, -, -, -, huser⟩ := h.layers
  exact huser.proper

lemma isApiName_serverApi (hproject : c.project.Proper) (huser : c.user.Proper) :
    isApiName c.serverApi = true := by
  rw [serverApi]
  cases hapi : c.project.serverApi?.or c.user.serverApi? with
  | none => decide
  | some api =>
    rcases Option.or_eq_some_iff.1 hapi with hapi | ⟨-, hapi⟩
    · exact hproject.serverApi api hapi
    · exact huser api hapi

/-- Every configuration in force is made of settings that pass the checks, and gives a run a name of
letters, digits, `-` and `_` to serve its interface under. The environment turns no settings that
pass into some that do not. -/
theorem in_force_passes_checks (h : InForce files env userFile c) :
    c.project.check = .ok () ∧ c.user.check = .ok () ∧
      ((Options.ofConfiguration c).serverApi ≠ "" ∧
        ∀ ch ∈ (Options.ofConfiguration c).serverApi.toList,
          ch.isAlphanum = true ∨ ch = '-' ∨ ch = '_') ∧
      ∀ project laid : ProjectSettings, project.check = .ok () → env.applyTo project = .ok laid →
        laid.check = .ok () := by
  refine ⟨ProjectSettings.check_eq_ok_iff.2 h.project_proper,
    UserSettings.check_eq_ok_iff.2 h.user_proper,
    isApiName_iff.1 (isApiName_serverApi h.project_proper h.user_proper), ?_⟩
  intro project laid hproject hlaid
  obtain ⟨henv, rfl⟩ := Environment.applyTo_eq_ok_iff.1 hlaid
  exact ProjectSettings.check_eq_ok_iff.2
    (Environment.proper_laidOn henv (ProjectSettings.check_eq_ok_iff.1 hproject))

end Configuration

/-- A project in `/p`, and a user who serves an interface and lists an empty include path. -/
def FileTree.looseUser : FileTree where
  root := .directory [
    ("p", .directory [("hearth.toml", .file ("[include]\npaths=['q']".toList.map Char.toUInt8))]),
    ("u", .file
      ("[defaults]\ninclude-paths=['','/l']\nserver-api='fpm-2'".toList.map Char.toUInt8))]
  cwd := []

/-- The configuration of the project in `/p`. -/
lemma Configuration.forDirectory_looseUser (env : Environment) (henv : env.Proper) :
    Configuration.forDirectory .looseUser env "/u" "/p" =
      .ok ⟨env.laidOn ⟨none, some ⟨["q"]⟩⟩, ⟨some ⟨["", "/l"], some "fpm-2"⟩⟩, some "/p"⟩ := by
  have hroot : projectRoot? .looseUser "/p" = some "/p" := by decide +kernel
  have hload : loadProject .looseUser (some "/p") = .ok ⟨none, some ⟨["q"]⟩⟩ := by decide +kernel
  have huser : UserSettings.loadOrEmpty .looseUser "/u" = ⟨some ⟨["", "/l"], some "fpm-2"⟩⟩ := by
    decide +kernel
  rw [← hroot] at hload ⊢
  exact forDirectory_eq_ok_iff.2 ⟨_, _, loadProject_eq_ok_iff.1 hload,
    UserSettings.loadOrEmpty_eq_iff.1 huser, henv, rfl⟩

namespace Configuration

/-- The environment sets a root and include paths, for which the project file has no section. -/
theorem in_force_passes_checks_overlaid :
    ∃ c, forDirectory .looseUser ⟨none, some "app", some ":lib:"⟩ "/u" "/p" = .ok c ∧
      c.project.check = .ok () ∧ c.user.check = .ok () ∧
      (Options.ofConfiguration c).serverApi = "fpm-2" := by
  have hc := forDirectory_looseUser ⟨none, some "app", some ":lib:"⟩ ⟨nofun, by decide⟩
  obtain ⟨hproject, huser, -⟩ := in_force_passes_checks (.inl ⟨"/p", hc⟩)
  exact ⟨_, hc, hproject, huser, rfl⟩

/-! ### Empty include paths -/

variable {files : FileTree} {env : Environment} {userFile : String} {c : Configuration}

lemma join_eq_empty {base path : String} (h : Path.join base path = "") : path = "" := by
  rw [Path.join] at h
  split at h
  case isTrue => exact h
  case isFalse => split at h <;> simp_all

lemma empty_mem_includePaths_iff (h : "" ∉ c.project.includePaths) :
    "" ∈ c.includePaths ↔ "" ∈ c.user.includePaths := by
  rw [includePaths, List.mem_append, or_iff_right]
  intro hmem
  obtain ⟨path, hpath, hempty⟩ := List.mem_map.1 hmem
  have hnone : path = "" := by
    rw [fromProject] at hempty
    split at hempty
    · exact join_eq_empty hempty
    · exact hempty
  exact h (hnone ▸ hpath)

/-- Of the layers only the user's file lets an empty include path through, and it does so whenever
it holds settings. Such a path is an include directory in which a run finds what it finds in its
working directory. -/
theorem empty_include_path_iff (h : InForce files env userFile c) :
    (Options.ofConfiguration c).includePaths =
      c.project.includePaths.map c.fromProject ++ c.user.includePaths ∧
    "" ∉ c.project.includePaths ∧
    ("" ∈ (Options.ofConfiguration c).includePaths ↔
      ∃ user : UserSettings, user.InFile files userFile ∧ "" ∈ user.includePaths) ∧
    ("" ∈ (Options.ofConfiguration c).includePaths →
      let r := Resolver.ofSettings (Options.ofConfiguration c).root
        (Options.ofConfiguration c).includePaths (Options.ofConfiguration c).workingDir
      ∃ dir ∈ r.includePaths, Path.segments dir = Path.segments r.workingDir) := by
  have hproject := h.project_proper.search
  obtain ⟨-, -, -, -, huser⟩ := h.layers
  refine ⟨rfl, hproject, (empty_mem_includePaths_iff hproject).trans ?_, ?_⟩
  · constructor
    · intro hmem
      rcases huser with huser | ⟨-, hnone⟩
      · exact ⟨c.user, huser, hmem⟩
      · rw [hnone] at hmem
        cases hmem
    · rintro ⟨user, hfile, hmem⟩
      have hsame : c.user = user :=
        (UserSettings.loadOrEmpty_eq_iff.2 huser).symm.trans
          (UserSettings.loadOrEmpty_eq_iff.2 (.inl hfile))
      exact hsame ▸ hmem
  · intro hmem r
    refine ⟨Path.onto r.workingDir "", List.mem_map_of_mem hmem, ?_⟩
    exact Path.segments_under r.workingDir ""

/-- The configuration of a project in which nothing is set but by files. -/
def looseUser : Configuration :=
  ⟨Environment.laidOn ⟨none, none, none⟩ ⟨none, some ⟨["q"]⟩⟩,
    ⟨some ⟨["", "/l"], some "fpm-2"⟩⟩, some "/p"⟩

/-- The empty include path of the user stands before the proper one. -/
theorem empty_include_path_in_force :
    forDirectory .looseUser ⟨none, none, none⟩ "/u" "/p" = .ok looseUser ∧
      (Options.ofConfiguration looseUser).includePaths = ["/p/q", "", "/l"] :=
  ⟨forDirectory_looseUser ⟨none, none, none⟩ ⟨nofun, nofun⟩, by decide +kernel⟩

/-- So the working directory is searched before the proper one. -/
theorem empty_include_path_iff_loose :
    ∃ dir ∈ (Resolver.ofSettings "/p" ["/p/q", "", "/l"] "/p").includePaths,
      Path.segments dir = Path.segments "/p" := by
  have hc := forDirectory_looseUser ⟨none, none, none⟩ ⟨nofun, nofun⟩
  obtain ⟨-, -, -, hsearched⟩ := empty_include_path_iff (.inl ⟨"/p", hc⟩)
  exact hsearched (by decide +kernel)

end Configuration

end ScriptRun
