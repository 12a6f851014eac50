import ScriptRun.Settings.Sections

/-!
# Layers of settings

A project keeps its settings in a file `hearth.toml`, and a user keeps some in
`.hearth/config.toml` at home. Settings of one kind can be laid over each other: a section that the
upper layer has takes the place of the whole section below.
-/

namespace ScriptRun

/-! ### Projects -/

/-- The name of the file that makes a directory a project. -/
def projectFile : String := "hearth.toml"

/-- The settings of a project. -/
structure ProjectSettings where
  run : Option RunSection
  search : Option SearchSection
  deriving DecidableEq

namespace ProjectSettings

/-- No settings. -/
def empty : ProjectSettings := ⟨none, none⟩

/-- The script root that is set. -/
def root? (c : ProjectSettings) : Option String := c.run.bind (·.root)

/-- The working directory that is set. -/
def workingDir? (c : ProjectSettings) : Option String := c.run.bind (·.workingDir)

/-- The server interface that is set. -/
def serverApi? (c : ProjectSettings) : Option String := c.run.bind (·.serverApi)

/-- The include paths that are set. -/
def includePaths (c : ProjectSettings) : List String :=
  match c.search with
  | some s => s.paths
  | none => []

/-- Lay further settings over these. -/
def overlay (c upper : ProjectSettings) : ProjectSettings :=
  ⟨upper.run.or c.run, upper.search.or c.search⟩

/-- Refuse improper settings: first those of `[runtime]`, then an empty include path. -/
def check (c : ProjectSettings) : Except SettingsError Unit := do
  if let some s := c.run then s.check
  if c.includePaths.contains "" then throw (.invalidPath "")

/-- Whether two layers say the same, however their paths are spelled. -/
def same (a b : ProjectSettings) : Bool :=
  (match a.run, b.run with
    | none, none => true
    | some r, some s => r.same s
    | _, _ => false)
  && (match a.search, b.search with
    | none, none => true
    | some s, some t => Path.sameList s.paths t.paths
    | _, _ => false)

/-- Read the settings from a document. -/
def ofToml? (es : Toml.Entries) : Option ProjectSettings :=
  if Toml.onlyKeys ["runtime", "include"] es then do
    let run ← Toml.field? RunSection.ofToml? es "runtime"
    let search ← Toml.field? SearchSection.ofToml? es "include"
    pure { run, search }
  else none

/-- Read the settings from a file, and refuse improper ones. -/
def load (files : FileTree) (path : String) : Except SettingsError ProjectSettings := do
  let text ← files.readText path
  match (Toml.parse? text).bind ofToml? with
  | none => throw .malformed
  | some c =>
    c.check
    pure c

end ProjectSettings

/-! ### Users -/

/-- The settings of a user. -/
structure UserSettings where
  defaults : Option UserSection
  deriving DecidableEq

namespace UserSettings

/-- No settings. -/
def empty : UserSettings := ⟨none⟩

/-- The directory that a user's settings are kept in. -/
def directory (home : String) : String := Path.join home ".hearth"

/-- The file that a user's settings are kept in. -/
def file (home : String) : String := Path.join (directory home) "config.toml"

/-- The include paths that are set. -/
def includePaths (c : UserSettings) : List String :=
  match c.defaults with
  | some d => d.includePaths
  | none => []

/-- The server interface that is set. -/
def serverApi? (c : UserSettings) : Option String := c.defaults.bind (·.serverApi)

/-- Lay further settings over these. -/
def overlay (c upper : UserSettings) : UserSettings := ⟨upper.defaults.or c.defaults⟩

/-- Refuse an improper server interface. -/
def check (c : UserSettings) : Except SettingsError Unit :=
  match c.serverApi? with
  | some api => checkApiName "defaults.server-api" api
  | none => .ok ()

/-- Whether two layers say the same, however their paths are spelled. -/
def same (a b : UserSettings) : Bool :=
  match a.defaults, b.defaults with
  | none, none => true
  | some d, some e => Path.sameList d.includePaths e.includePaths && d.serverApi == e.serverApi
  | _, _ => false

/-- Read the settings from a document. -/
def ofToml? (es : Toml.Entries) : Option UserSettings :=
  if Toml.onlyKeys ["defaults"] es then
    (Toml.field? UserSection.ofToml? es "defaults").map .mk
  else none

/-- Read the settings from a file, and refuse improper ones. -/
def load (files : FileTree) (path : String) : Except SettingsError UserSettings := do
  let text ← files.readText path
  match (Toml.parse? text).bind ofToml? with
  | none => throw .malformed
  | some c =>
    c.check
    pure c

/-- The settings in a file; none if they cannot be had. A user's file must not keep a project from
running. -/
def loadOrEmpty (files : FileTree) (path : String) : UserSettings :=
  if files.contains path then
    match load files path with
    | .ok c => c
    | .error _ => .empty
  else .empty

end UserSettings

end ScriptRun
