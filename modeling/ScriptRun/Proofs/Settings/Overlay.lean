import ScriptRun.Settings.Layers
import Mathlib.Data.List.Basic
import Mathlib.Data.List.Induction

/-!
# Settings laid over each other

A section that a layer has takes the place of the whole section below, so what counts for a setting
is the last layer that has its section. That is what the last layer says that sets it, unless a
later one has the section without the setting. Such a layer erases it.
-/

namespace ScriptRun

/-! ### Settings in a section -/

section Sections

variable {L β : Type} {overlay : L → L → L} {has : L → Bool} {get? : L → Option β}

/-- How layers are laid over each other, as seen by a setting: `has` tells whether a layer has the
section that the setting belongs to. -/
structure BySection (overlay : L → L → L) (has : L → Bool) (get? : L → Option β) : Prop where
  get?_overlay (lower upper : L) :
    get? (overlay lower upper) = if has upper then get? upper else get? lower
  get?_of_not_has {c : L} : has c = false → get? c = none

/-- Some layer sets the setting, but the last one that has the section does not. -/
def Erased (has : L → Bool) (get? : L → Option β) (layers : List L) : Prop :=
  (∃ c ∈ layers, get? c ≠ none) ∧ ∃ c, (layers.filter has).getLast? = some c ∧ get? c = none

namespace BySection

/-- It is so where the section of the upper layer is taken, and that of the lower one only if there
is none. -/
lemma of_or {α : Type} {section? : L → Option α}
    (hor : ∀ lower upper, section? (overlay lower upper) = (section? upper).or (section? lower))
    {read : α → Option β} (hget : ∀ c, get? c = (section? c).bind read) :
    BySection overlay (fun c => (section? c).isSome) get? where
  get?_overlay lower upper := by
    rw [hget, hget, hget, hor]
    cases section? upper <;> rfl
  get?_of_not_has {c} hc := by
    rw [hget, Option.isNone_iff_eq_none.1 (Option.isSome_eq_false_iff.1 hc), Option.bind_none]

variable (h : BySection overlay has get?)
include h

lemma get?_foldl (base : L) (layers : List L) :
    get? (layers.foldl overlay base) = ((base :: layers).filter has).getLast?.bind get? := by
  -- on the layers from the uppermost one
  induction layers using List.reverseRecOn with
  | nil =>
    cases hbase : has base with
    | true => simp [hbase]
    | false => simp [hbase, h.get?_of_not_has hbase]
  | append_singleton layers upper ih =>
    rw [List.foldl_append, List.foldl_cons, List.foldl_nil, h.get?_overlay, ih, ← List.cons_append,
      List.filter_append]
    cases hupper : has upper with
    | true => simp [hupper]
    | false => simp [hupper]

/-- A layer without the section sets nothing. -/
lemma filterMap_filter (layers : List L) :
    (layers.filter has).filterMap get? = layers.filterMap get? := by
  induction layers with
  | nil => rfl
  | cons c layers ih =>
    cases hc : has c with
    | true => rw [List.filter_cons_of_pos hc, List.filterMap_cons, List.filterMap_cons, ih]
    | false =>
      rw [List.filter_cons_of_neg (Bool.eq_false_iff.1 hc), ih,
        List.filterMap_cons_none (h.get?_of_not_has hc)]

/-- The last layer with the section and the last one with the setting say the same unless the
setting is erased. -/
lemma getLast?_bind_iff (layers : List L) :
    (layers.filter has).getLast?.bind get? = (layers.filterMap get?).getLast? ↔
      ¬Erased has get? layers := by
  have hset : (∃ c ∈ layers, get? c ≠ none) ↔ (layers.filterMap get?).getLast? ≠ none := by
    simp
  rw [Erased, hset, ← h.filterMap_filter]
  rcases List.eq_nil_or_concat' (layers.filter has) with hnil | ⟨lower, c, hlast⟩
  · simp [hnil]
  · rw [hlast, List.filterMap_append, List.getLast?_concat]
    cases hc : get? c with
    | none => simp [hc, eq_comm]
    | some x => simp [hc]

end BySection

/-- What comes of layers that are laid over a lowest one, as seen by a setting. -/
structure ReplacesSection (overlay : L → L → L) (has : L → Bool) (get? : L → Option β) (base : L)
    (layers : List L) : Prop where
  /-- The last layer that has the section decides. -/
  value : get? (layers.foldl overlay base) = ((base :: layers).filter has).getLast?.bind get?
  /-- It is the last layer that has the setting which decides, unless the setting is erased. -/
  lastSet_iff : get? (layers.foldl overlay base) = ((base :: layers).filterMap get?).getLast? ↔
    ¬Erased has get? (base :: layers)
  /-- Of two layers the upper one decides where it has the setting and the lower one elsewhere,
  unless the upper one has the section without the setting and the lower one has the setting. -/
  kept_iff (upper : L) : get? (overlay base upper) = (get? upper).or (get? base) ↔
    ¬(has upper = true ∧ get? upper = none ∧ get? base ≠ none)

lemma BySection.replacesSection (h : BySection overlay has get?) (base : L) (layers : List L) :
    ReplacesSection overlay has get? base layers where
  value := h.get?_foldl base layers
  lastSet_iff := by
    rw [h.get?_foldl]
    exact h.getLast?_bind_iff (base :: layers)
  kept_iff upper := by
    rw [h.get?_overlay]
    cases hupper : has upper with
    | true => cases get? upper <;> simp [eq_comm]
    | false => simp [h.get?_of_not_has hupper]

end Sections

/-! ### Projects and users -/

/-- Paths, if there are any. A section that mentions none has the empty list of them, so an empty
list is one that is not set. -/
def pathsIn (paths : List String) : Option (List String) := if paths = [] then none else some paths

/-- The include paths of a project, if any are set. -/
def ProjectSettings.includePaths? (c : ProjectSettings) : Option (List String) :=
  pathsIn c.includePaths

/-- The include paths of a user, if any are set. -/
def UserSettings.includePaths? (c : UserSettings) : Option (List String) := pathsIn c.includePaths

lemma ProjectSettings.includePaths?_eq (c : ProjectSettings) :
    c.includePaths? = c.search.bind fun s => pathsIn s.paths := by
  rw [includePaths?, includePaths]
  cases c.search <;> rfl

lemma UserSettings.includePaths?_eq (c : UserSettings) :
    c.includePaths? = c.defaults.bind fun d => pathsIn d.includePaths := by
  rw [includePaths?, includePaths]
  cases c.defaults <;> rfl

/-- Each setting of projects and of users goes by its section: laid over others, a layer decides all
settings of the sections that it has, those too that it leaves open. So a setting is kept exactly
where no layer has the section without it above the layers that set it. -/
theorem overlay_replaces_sections (project : ProjectSettings) (projects : List ProjectSettings)
    (user : UserSettings) (users : List UserSettings) :
    (ReplacesSection ProjectSettings.overlay (·.run.isSome) ProjectSettings.root? project
        projects ∧
      ReplacesSection ProjectSettings.overlay (·.run.isSome) ProjectSettings.workingDir? project
        projects ∧
      ReplacesSection ProjectSettings.overlay (·.run.isSome) ProjectSettings.serverApi? project
        projects ∧
      ReplacesSection ProjectSettings.overlay (·.search.isSome) ProjectSettings.includePaths?
        project projects) ∧
    ReplacesSection UserSettings.overlay (·.defaults.isSome) UserSettings.serverApi? user users ∧
    ReplacesSection UserSettings.overlay (·.defaults.isSome) UserSettings.includePaths? user
      users := by
  have hrun {β : Type} (read : RunSection → Option β) :
      BySection ProjectSettings.overlay (·.run.isSome) fun c => c.run.bind read :=
    .of_or (fun _ _ => rfl) fun _ => rfl
  have hsearch :
      BySection ProjectSettings.overlay (·.search.isSome) ProjectSettings.includePaths? :=
    .of_or (fun _ _ => rfl) ProjectSettings.includePaths?_eq
  have hapi : BySection UserSettings.overlay (·.defaults.isSome) UserSettings.serverApi? :=
    .of_or (fun _ _ => rfl) fun c => (rfl : c.serverApi? = c.defaults.bind (·.serverApi))
  have hpaths : BySection UserSettings.overlay (·.defaults.isSome) UserSettings.includePaths? :=
    .of_or (fun _ _ => rfl) UserSettings.includePaths?_eq
  refine ⟨⟨?_, ?_, ?_, hsearch.replacesSection project projects⟩,
    hapi.replacesSection user users, hpaths.replacesSection user users⟩
  · exact (hrun (·.root)).replacesSection project projects
  · exact (hrun (·.workingDir)).replacesSection project projects
  · exact (hrun (·.serverApi)).replacesSection project projects

/-- A server interface that is laid over a root erases it, and one that is laid over include paths
of a user erases these. -/
theorem siblings_erased :
    (let lower : ProjectSettings := ⟨some { RunSection.empty with root := some "app" }, none⟩
      let upper : ProjectSettings :=
        ⟨some { RunSection.empty with serverApi := some "embed" }, none⟩
      upper.root?.or lower.root? = some "app" ∧ (lower.overlay upper).root? = none) ∧
    (let lower : UserSettings := ⟨some ⟨["lib"], none⟩⟩
      let upper : UserSettings := ⟨some ⟨[], some "embed"⟩⟩
      upper.includePaths?.or lower.includePaths? = some ["lib"] ∧
        (lower.overlay upper).includePaths? = none) :=
  ⟨⟨rfl, rfl⟩, rfl, rfl⟩

end ScriptRun
