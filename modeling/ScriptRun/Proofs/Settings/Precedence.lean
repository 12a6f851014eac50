import ScriptRun.Proofs.Path.Segments
import ScriptRun.Proofs.Settings.Files
import Mathlib.Data.String.Basic

/-!
# Which settings are in force

What the environment sets is laid over what the project file sets, and what both leave open is taken
from the user's file or has a default. Paths of the project and the environment are taken from the
directory of the project.

A server interface in the environment that is no text at all is not refused like an improper name:
it counts as if none were set.
-/

namespace ScriptRun

/-! ### The environment -/

namespace Environment

/-- What the environment may set. Of a server interface that is no text nothing is asked. -/
@[mk_iff]
structure Proper (env : Environment) : Prop where
  serverApi : ∀ api, env.serverApi? = some api → isApiName api = true
  root : env.root ≠ some ""

lemma splitPaths_eq_filter (list : String) :
    splitPaths list = (list.splitToList (· == ':')).filter (· ≠ "") := by
  rw [splitPaths, Path.pieces_eq_splitOnP, String.splitToList_of_valid, List.filter_map]
  congr 1
  refine List.filter_congr fun piece _ => ?_
  cases piece <;> simp

/-- The settings of a project with those of the environment over them. The section `[runtime]` is
there if either sets something in it. -/
def laidOn (env : Environment) (c : ProjectSettings) : ProjectSettings where
  run :=
    if env.serverApi? = none ∧ env.root = none then c.run
    else some ⟨env.root.or c.root?, c.workingDir?, env.serverApi?.or c.serverApi?⟩
  search := (env.includePath.map fun list => ⟨splitPaths list⟩).or c.search

section Over

variable (env : Environment) (c : ProjectSettings)

@[simp] lemma serverApi?_laidOn : (env.laidOn c).serverApi? = env.serverApi?.or c.serverApi? := by
  by_cases h : env.serverApi? = none ∧ env.root = none <;>
    simp [laidOn, ProjectSettings.serverApi?, h]

@[simp] lemma root?_laidOn : (env.laidOn c).root? = env.root.or c.root? := by
  by_cases h : env.serverApi? = none ∧ env.root = none <;>
    simp [laidOn, ProjectSettings.root?, h]

@[simp] lemma workingDir?_laidOn : (env.laidOn c).workingDir? = c.workingDir? := by
  by_cases h : env.serverApi? = none ∧ env.root = none <;>
    simp [laidOn, ProjectSettings.workingDir?, h]

@[simp] lemma includePaths_laidOn :
    (env.laidOn c).includePaths = (env.includePath.map splitPaths).getD c.includePaths := by
  cases h : env.includePath <;> simp [laidOn, ProjectSettings.includePaths, h]

end Over

theorem applyTo_eq_ok_iff {env : Environment} {c d : ProjectSettings} :
    env.applyTo c = .ok d ↔ env.Proper ∧ d = env.laidOn c := by
  obtain ⟨_ | run, search⟩ := c <;> cases hapi : env.serverApi? <;> cases hroot : env.root <;>
    cases hlist : env.includePath <;>
    simp [applyTo, proper_iff, laidOn, hapi, hroot, hlist, bind_eq_ok_iff, refuse_bind_eq_ok_iff,
      checkApiName_eq_ok_iff, pure, Except.pure, and_assoc, RunSection.empty,
      ProjectSettings.root?, ProjectSettings.workingDir?, ProjectSettings.serverApi?, @eq_comm _ d]

lemma applyTo_of_serverApi?_none {env : Environment} (h : env.serverApi? = none) :
    env.applyTo = { env with serverApi := none }.applyTo := by
  funext c
  rw [applyTo, applyTo, h]
  rfl

end Environment

/-! ### Directories -/

namespace Path

lemma join_of_isRooted {path : String} (h : isRooted path = true) (base : String) :
    join base path = path := by
  rw [join, if_pos h]

/-- A path as it is taken from a directory, and as it is without one. -/
def takenFrom (base? : Option String) (path : String) : String :=
  base?.elim path fun base => join base path

lemma takenFrom_of_isRooted {path : String} (h : isRooted path = true) (base? : Option String) :
    takenFrom base? path = path := by
  cases base? with
  | none => rfl
  | some base => exact join_of_isRooted h base

end Path

namespace Configuration

variable {files : FileTree} {env : Environment} {userFile dir : String}

/-- The settings in the project file of a directory. Without a project there are none. -/
def InProject (files : FileTree) : Option String → ProjectSettings → Prop
  | some root, c => c.InFile files (Path.join root projectFile)
  | none, c => c = .empty

lemma loadProject_eq_ok_iff {root? : Option String} {c : ProjectSettings} :
    loadProject files root? = .ok c ↔ InProject files root? c := by
  cases root? with
  | none => simp [loadProject, InProject, eq_comm]
  | some root => exact ProjectSettings.load_eq_ok_iff

theorem forDirectory_eq_ok_iff {c : Configuration} :
    forDirectory files env userFile dir = .ok c ↔
      ∃ project user, InProject files (projectRoot? files dir) project ∧
        user.CountsAs files userFile ∧ env.Proper ∧
        c = ⟨env.laidOn project, user, projectRoot? files dir⟩ := by
  simp only [forDirectory, bind_eq_ok_iff, loadProject_eq_ok_iff, Environment.applyTo_eq_ok_iff]
  constructor
  · rintro ⟨project, hproject, _, ⟨henv, rfl⟩, hc⟩
    cases hc
    exact ⟨project, _, hproject, UserSettings.loadOrEmpty_eq_iff.1 rfl, henv, rfl⟩
  · rintro ⟨project, user, hproject, huser, henv, rfl⟩
    rw [← UserSettings.loadOrEmpty_eq_iff] at huser
    exact ⟨project, hproject, _, ⟨henv, rfl⟩, huser ▸ rfl⟩

lemma exists_inProject_iff {root? : Option String} :
    (∃ project, InProject files root? project) ↔
      ∀ root, root? = some root →
        ∃ c, ProjectSettings.InFile files (Path.join root projectFile) c := by
  cases root? <;> simp [InProject]

/-- No configuration is made exactly if the project file holds no settings or the environment sets
what it may not. -/
theorem forDirectory_error_iff :
    (∃ e, forDirectory files env userFile dir = .error e) ↔
      (∃ root, projectRoot? files dir = some root ∧
        ¬ ∃ c, ProjectSettings.InFile files (Path.join root projectFile) c) ∨
      (∃ api, env.serverApi? = some api ∧ isApiName api = false) ∨ env.root = some "" := by
  have hmade : (∃ c, forDirectory files env userFile dir = .ok c) ↔
      (∃ project, InProject files (projectRoot? files dir) project) ∧ env.Proper := by
    constructor
    · rintro ⟨c, hc⟩
      obtain ⟨project, _, hproject, -, henv, -⟩ := forDirectory_eq_ok_iff.1 hc
      exact ⟨⟨project, hproject⟩, henv⟩
    · rintro ⟨⟨project, hproject⟩, henv⟩
      exact ⟨_, forDirectory_eq_ok_iff.2
        ⟨project, _, hproject, UserSettings.loadOrEmpty_eq_iff.1 rfl, henv, rfl⟩⟩
  have hnot : (∃ e, forDirectory files env userFile dir = .error e) ↔
      ¬ ∃ c, forDirectory files env userFile dir = .ok c := by
    cases forDirectory files env userFile dir <;> simp
  rw [hnot, hmade, exists_inProject_iff, Environment.proper_iff]
  simp only [not_and_or, not_forall, exists_prop, Bool.not_eq_true, ne_eq, not_not]

lemma forDirectory_of_serverApi?_none (h : env.serverApi? = none) :
    forDirectory files env userFile dir =
      forDirectory files { env with serverApi := none } userFile dir := by
  rw [forDirectory, forDirectory, Environment.applyTo_of_serverApi?_none h]

lemma fromProject_eq (c : Configuration) : c.fromProject = Path.takenFrom c.projectRoot := by
  funext path
  rw [fromProject, Path.takenFrom]
  cases c.projectRoot <;> rfl

lemma scriptRoot?_eq (c : Configuration) :
    c.scriptRoot? = (c.project.root?.map (Path.takenFrom c.projectRoot)).or c.projectRoot := by
  rw [scriptRoot?, fromProject_eq]
  cases c.project.root? <;> rfl

lemma workingDir?_getD (c : Configuration) (top : String) :
    c.workingDir?.getD (c.scriptRoot?.getD top) =
      (c.project.workingDir?.map (Path.takenFrom c.projectRoot)).getD (c.scriptRoot?.getD top) := by
  rw [workingDir?, fromProject_eq]
  cases c.project.workingDir? with
  | none => cases c.scriptRoot? <;> rfl
  | some dir => rfl

end Configuration

/-- The options that settings amount to, from the environment, the project file and the user's file
in this order. Whether there are any depends on the first two alone. A server interface in the
environment counts if its bytes are text; else everything is as without it. -/
theorem configuration_precedence (files : FileTree) (env : Environment) (userFile dir : String) :
    let base? := Configuration.projectRoot? files dir
    let api? := env.serverApi.bind Text.decode?
    (∀ c, Configuration.forDirectory files env userFile dir = .ok c →
      c.projectRoot = base? ∧
      ∃ (project : ProjectSettings) (user : UserSettings),
        Configuration.InProject files base? project ∧ user.CountsAs files userFile ∧
        let listed? := env.includePath.map fun list =>
          (list.splitToList (· == ':')).filter (· ≠ "")
        let root :=
          (((env.root.or project.root?).map (Path.takenFrom base?)).or base?).getD "/"
        Options.ofConfiguration c =
          { root
            workingDir := (project.workingDir?.map (Path.takenFrom base?)).getD root
            includePaths :=
              (listed?.getD project.includePaths).map (fun path =>
                if Path.isRooted path then path else Path.takenFrom base? path) ++
              user.includePaths
            serverApi :=
              ((api?.or project.serverApi?).or user.serverApi?).getD "cli" }) ∧
    ((∃ e, Configuration.forDirectory files env userFile dir = .error e) ↔
      (∃ root, base? = some root ∧
        ¬ ∃ c, ProjectSettings.InFile files (Path.join root projectFile) c) ∨
      (∃ api, api? = some api ∧ isApiName api = false) ∨ env.root = some "") ∧
    (api? = none → Configuration.forDirectory files env userFile dir =
      Configuration.forDirectory files { env with serverApi := none } userFile dir) := by
  intro base? api?
  refine ⟨fun c hc => ?_, Configuration.forDirectory_error_iff,
    Configuration.forDirectory_of_serverApi?_none⟩
  obtain ⟨project, user, hproject, huser, -, rfl⟩ := Configuration.forDirectory_eq_ok_iff.1 hc
  refine ⟨rfl, project, user, hproject, huser, ?_⟩
  have htaken : (fun path => if Path.isRooted path then path else Path.takenFrom base? path) =
      Path.takenFrom base? := by
    funext path
    split
    case isTrue h => exact (Path.takenFrom_of_isRooted h base?).symm
    case isFalse => rfl
  rw [htaken, ← funext Environment.splitPaths_eq_filter]
  simp only [Options.ofConfiguration, Options.mk.injEq]
  refine ⟨?_, ?_, ?_, ?_⟩
  · rw [Configuration.scriptRoot?_eq, Environment.root?_laidOn]
    rfl
  · rw [Configuration.includePaths, Configuration.fromProject_eq, Environment.includePaths_laidOn]
  · rw [Configuration.workingDir?_getD, Environment.workingDir?_laidOn,
      Configuration.scriptRoot?_eq, Environment.root?_laidOn]
    rfl
  · rw [Configuration.serverApi, Environment.serverApi?_laidOn]
    rfl

/-- A project in `/p`, with a directory in it. -/
def FileTree.oneProject : FileTree where
  root := .directory [("p", .directory [
    ("hearth.toml", .file ("[include]\npaths=['q','/l']".toList.map Char.toUInt8)),
    ("s", .directory [])])]
  cwd := []

namespace Configuration

lemma projectRoot?_oneProject : projectRoot? .oneProject "/p/s" = some "/p" := by decide +kernel

lemma loadProject_oneProject :
    loadProject .oneProject (some "/p") = .ok ⟨none, some ⟨["q", "/l"]⟩⟩ := by decide +kernel

lemma loadOrEmpty_oneProject : UserSettings.loadOrEmpty .oneProject "/u" = .empty := by
  decide +kernel

lemma forDirectory_oneProject {env : Environment} (henv : env.Proper) :
    forDirectory .oneProject env "/u" "/p/s" =
      .ok ⟨env.laidOn ⟨none, some ⟨["q", "/l"]⟩⟩, .empty, some "/p"⟩ := by
  rw [← projectRoot?_oneProject]
  exact forDirectory_eq_ok_iff.2 ⟨_, _,
    projectRoot?_oneProject ▸ loadProject_eq_ok_iff.1 loadProject_oneProject,
    UserSettings.loadOrEmpty_eq_iff.1 loadOrEmpty_oneProject, henv, rfl⟩

end Configuration

/-- The environment sets a root, and there is no user's file. -/
theorem configuration_precedence_oneProject :
    ∃ c, Configuration.forDirectory .oneProject ⟨none, some "app", none⟩ "/u" "/p/s" = .ok c ∧
      Options.ofConfiguration c =
        { root := "/p/app", workingDir := "/p/app", includePaths := ["/p/q", "/l"],
          serverApi := "cli" } := by
  have hc := Configuration.forDirectory_oneProject
    (⟨nofun, by decide⟩ : Environment.Proper ⟨none, some "app", none⟩)
  obtain ⟨-, project, user, hproject, huser, hoptions⟩ :=
    (configuration_precedence _ _ "/u" "/p/s").1 _ hc
  rw [Configuration.projectRoot?_oneProject] at hproject hoptions
  obtain rfl := Except.ok.inj
    ((Configuration.loadProject_eq_ok_iff.2 hproject).symm.trans
      Configuration.loadProject_oneProject)
  obtain rfl := (UserSettings.loadOrEmpty_eq_iff.2 huser).symm.trans
    Configuration.loadOrEmpty_oneProject
  exact ⟨_, hc, hoptions.trans (by decide +kernel)⟩

/-- The byte `0xFF` is no text and so no name, and still there is a configuration when the
environment sets it: that of the project alone. -/
theorem configuration_despite_no_text :
    Text.decode? [0xFF] = none ∧
      ∃ c, Configuration.forDirectory .oneProject ⟨some [0xFF], none, none⟩ "/u" "/p/s" = .ok c ∧
        (Options.ofConfiguration c).serverApi = "cli" := by
  have hnone : Text.decode? [0xFF] = none := by decide +kernel
  have henv : Environment.Proper ⟨some [0xFF], none, none⟩ := by
    refine ⟨fun api hapi => ?_, nofun⟩
    rw [Environment.serverApi?, Option.bind_some, hnone] at hapi
    cases hapi
  exact ⟨hnone, _, Configuration.forDirectory_oneProject henv, by decide +kernel⟩

end ScriptRun
