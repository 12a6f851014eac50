import ScriptRun.Proofs.Path.Components
import ScriptRun.Proofs.Settings.Precedence

/-!
# A project by its file and by its directory

The settings of a project can be loaded from its directory or with its file given. Of a directory
with a project file the same file is read either way, so the settings are the same and so is what is
refused. Only the directory of the project may be spelled in two ways: as it was given, or as what
stands above the file. The two are one path, and so is whatever is joined to them.
-/

namespace ScriptRun

namespace Configuration

variable {files : FileTree} {env : Environment} {userFile dir : String} {c : Configuration}

/-- Two configurations of the same settings, whose directories are the same paths. -/
structure Agrees (c c' : Configuration) : Prop where
  project : c.project = c'.project
  user : c.user = c'.user
  projectRoot : c.projectRoot.map Path.components = c'.projectRoot.map Path.components
  scriptRoot : c.scriptRoot?.map Path.components = c'.scriptRoot?.map Path.components
  workingDir : c.workingDir?.map Path.components = c'.workingDir?.map Path.components
  includePaths : c.includePaths.map Path.components = c'.includePaths.map Path.components

/-! ### Another spelling of the directory -/

/-- The configuration with its directory spelled in some way. -/
def spelled (c : Configuration) (root : String) : Configuration :=
  { c with projectRoot := some root }

/-- How the directory of a project is spelled makes no difference. -/
lemma agrees_spelled {root other : String} (hroot : c.projectRoot = some root)
    (h : Path.components root = Path.components other) : c.Agrees (c.spelled other) := by
  have hjoin (path : String) :
      Path.components (c.fromProject path) = Path.components ((c.spelled other).fromProject path) := by
    rw [fromProject, fromProject, hroot]
    exact Path.components_join_congr h path
  have hprojectRoot : c.projectRoot.map Path.components =
      (c.spelled other).projectRoot.map Path.components := by
    rw [hroot]
    exact congrArg some h
  have hscriptRoot : c.scriptRoot?.map Path.components =
      (c.spelled other).scriptRoot?.map Path.components := by
    rw [scriptRoot?, scriptRoot?, spelled]
    cases c.project.root? with
    | none => exact hprojectRoot
    | some path => exact congrArg some (hjoin path)
  -- include paths of the user are not joined to anything: only those of the project change
  refine ⟨rfl, rfl, hprojectRoot, hscriptRoot, ?_, ?_⟩
  · rw [workingDir?, workingDir?, spelled]
    cases c.project.workingDir? with
    | none => exact hscriptRoot
    | some path => exact congrArg some (hjoin path)
  · rw [includePaths, includePaths, List.map_append, List.map_append, List.map_map, List.map_map]
    exact congrArg (· ++ _) (List.map_congr_left fun path _ => hjoin path)

/-! ### One file -/

/-- Where there is a project file, it is the one that is found. -/
lemma projectRoot?_of_contains (h : files.contains (Path.join dir projectFile) = true) :
    projectRoot? files dir = some dir := by
  rw [projectRoot?, Path.ancestors_eq, List.find?_cons, h]

/-- From a directory with a project file the settings in it are loaded. -/
lemma forDirectory_of_contains (h : files.contains (Path.join dir projectFile) = true) :
    forDirectory files env userFile dir =
      (forFile files env userFile (Path.join dir projectFile)).map (spelled · dir) := by
  rw [forDirectory, forFile, projectRoot?_of_contains h]
  change (ProjectSettings.load files (Path.join dir projectFile) >>= _) = _
  cases ProjectSettings.load files (Path.join dir projectFile) with
  | error e => rfl
  | ok project =>
    change (env.applyTo project >>= _) = Except.map _ (env.applyTo project >>= _)
    cases env.applyTo project <;> rfl

lemma projectRoot_of_forFile {file : String} (h : forFile files env userFile file = .ok c) :
    c.projectRoot = Path.parent? file := by
  rw [forFile] at h
  obtain ⟨_, -, h⟩ := bind_eq_ok_iff.1 h
  obtain ⟨_, -, h⟩ := bind_eq_ok_iff.1 h
  cases h
  rfl

/-- Of a directory with a project file, whatever that is, loading with the file given and loading
from the directory fail alike, or give settings that agree. -/
theorem file_agrees_with_directory (h : files.contains (Path.join dir projectFile) = true)
    (env : Environment) (userFile : String) :
    (∃ e, forFile files env userFile (Path.join dir projectFile) = .error e ∧
      forDirectory files env userFile dir = .error e) ∨
    ∃ c c', forFile files env userFile (Path.join dir projectFile) = .ok c ∧
      forDirectory files env userFile dir = .ok c' ∧ c.Agrees c' := by
  rw [forDirectory_of_contains h]
  cases hfile : forFile files env userFile (Path.join dir projectFile) with
  | error e => exact .inl ⟨e, rfl, rfl⟩
  | ok c =>
    have hslash : '/' ∉ projectFile.toList := by decide
    have hlive : Path.isLive projectFile.toList = true := by decide
    obtain ⟨up, hup, hcomponents⟩ := Path.parent?_join_name hslash hlive dir
    have hroot : c.projectRoot = some up := (projectRoot_of_forFile hfile).trans hup
    exact .inr ⟨c, c.spelled dir, rfl, rfl, agrees_spelled hroot hcomponents⟩

/-- A directory that is spelled with idle segments: its file gives another spelling, and settings
that agree. -/
theorem file_agrees_with_directory_oneProject :
    let env : Environment := ⟨none, some "app", none⟩
    ∃ c c', forFile .oneProject env "/u" "/p/.//hearth.toml" = .ok c ∧
      forDirectory .oneProject env "/u" "/p/.//" = .ok c' ∧ c.Agrees c' ∧
      c.scriptRoot? = some "/p/app" ∧ c'.scriptRoot? = some "/p/.//app" := by
  intro env
  have hcontains : FileTree.oneProject.contains (Path.join "/p/.//" projectFile) = true := by
    decide +kernel
  have hload : ProjectSettings.load .oneProject (Path.join "/p/.//" projectFile) =
      .ok ⟨none, some ⟨["q", "/l"]⟩⟩ := by decide +kernel
  have hfile : forFile .oneProject env "/u" (Path.join "/p/.//" projectFile) =
      .ok ⟨env.laidOn ⟨none, some ⟨["q", "/l"]⟩⟩, .loadOrEmpty .oneProject "/u",
        Path.parent? (Path.join "/p/.//" projectFile)⟩ := by
    rw [forFile, hload]
    rfl
  obtain ⟨e, herror, -⟩ | ⟨c, c', hc, hc', hagrees⟩ :=
    file_agrees_with_directory hcontains env "/u"
  · cases hfile.symm.trans herror
  · have hspelled : forDirectory .oneProject env "/u" "/p/.//" =
        (forFile .oneProject env "/u" (Path.join "/p/.//" projectFile)).map (spelled · "/p/.//") :=
      forDirectory_of_contains hcontains
    rw [hfile, hc'] at hspelled
    cases hfile.symm.trans hc
    cases hspelled
    exact ⟨_, _, hc, hc', hagrees, by decide +kernel, by decide +kernel⟩

end Configuration

end ScriptRun
