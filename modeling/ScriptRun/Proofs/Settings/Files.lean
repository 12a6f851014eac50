import ScriptRun.Settings.Search
import Mathlib.Tactic.Lemma
import Mathlib.Tactic.MkIffOfInductiveProp

/-!
# What settings files hold

A file holds settings if it is a text, the text is a document with these settings, and the settings
are proper. Loading a file gives what it holds, and is refused if it holds nothing.
-/

namespace ScriptRun

/-! ### Steps that may be refused -/

lemma bind_eq_ok_iff {ε α β : Type} {x : Except ε α} {f : α → Except ε β} {b : β} :
    (x >>= f) = .ok b ↔ ∃ a, x = .ok a ∧ f a = .ok b := by
  cases x with
  | error e => exact ⟨nofun, nofun⟩
  | ok a => simp [bind, Except.bind]

lemma refuse_eq_ok_iff {ε : Type} {p : Prop} [Decidable p] {e : ε} {u : Unit} :
    (if p then throw e else pure () : Except ε Unit) = .ok u ↔ ¬ p := by
  by_cases hp : p <;> simp [hp, throw, throwThe, MonadExceptOf.throw, pure, Except.pure]

lemma refuse_bind_eq_ok_iff {ε α β : Type} {p : Prop} [Decidable p] {e : ε} {f : α → Except ε β}
    {x : Except ε β} {b : β} : (if p then throw e >>= f else x) = .ok b ↔ ¬ p ∧ x = .ok b := by
  by_cases hp : p <;> simp [hp, throw, throwThe, MonadExceptOf.throw, bind, Except.bind]

lemma checkApiName_eq_ok_iff {field name : String} {u : Unit} :
    checkApiName field name = .ok u ↔ isApiName name = true := by
  simp [checkApiName]

/-! ### Documents -/

namespace FileTree

variable {files : FileTree} {path : String}

/-- The file at a path is a text, and the text is a document. -/
def HasDocument (files : FileTree) (path : String) (document : Toml.Entries) : Prop :=
  ∃ bytes text, files.read path = .ok bytes ∧ Text.decode? bytes = some text ∧
    Toml.parse? text = some document

lemma readText_eq_ok_iff {text : String} :
    files.readText path = .ok text ↔
      ∃ bytes, files.read path = .ok bytes ∧ Text.decode? bytes = some text := by
  rw [readText]
  cases files.read path with
  | error e => cases e <;> simp
  | ok bytes => cases h : Text.decode? bytes <;> simp [h]

/-- How settings of any kind are loaded: read as a document, then checked. -/
def load {σ : Type} (files : FileTree) (path : String) (ofToml? : Toml.Entries → Option σ)
    (check : σ → Except SettingsError Unit) : Except SettingsError σ := do
  let text ← files.readText path
  match (Toml.parse? text).bind ofToml? with
  | none => throw .malformed
  | some c =>
    check c
    pure c

lemma load_eq_ok_iff {σ : Type} {ofToml? : Toml.Entries → Option σ}
    {check : σ → Except SettingsError Unit} {c : σ} :
    files.load path ofToml? check = .ok c ↔
      ∃ document, files.HasDocument path document ∧ ofToml? document = some c ∧
        check c = .ok () := by
  rw [load, bind_eq_ok_iff]
  constructor
  · rintro ⟨text, htext, hload⟩
    obtain ⟨bytes, hread, hdecode⟩ := readText_eq_ok_iff.1 htext
    split at hload
    case h_1 => cases hload
    case h_2 held hheld =>
      obtain ⟨document, hparse, hof⟩ := Option.bind_eq_some_iff.1 hheld
      obtain ⟨_, hcheck, hc⟩ := bind_eq_ok_iff.1 hload
      cases hc
      exact ⟨document, ⟨bytes, text, hread, hdecode, hparse⟩, hof, hcheck⟩
  · rintro ⟨document, ⟨bytes, text, hread, hdecode, hparse⟩, hof, hcheck⟩
    refine ⟨text, readText_eq_ok_iff.2 ⟨bytes, hread, hdecode⟩, ?_⟩
    simp only [hparse, Option.bind_some, hof]
    exact bind_eq_ok_iff.2 ⟨(), hcheck, rfl⟩

lemma contains_of_read {bytes : List UInt8} (h : files.read path = .ok bytes) :
    files.contains path = true := by
  rw [read] at h
  rw [contains]
  cases hl : files.lookup path with
  | ok node => rfl
  | error e => simp [hl] at h

end FileTree

/-! ### Projects -/

namespace ProjectSettings

/-- Settings that a project may have. -/
@[mk_iff]
structure Proper (c : ProjectSettings) : Prop where
  serverApi : ∀ api, c.serverApi? = some api → isApiName api = true
  root : c.root? ≠ some ""
  search : "" ∉ c.includePaths

lemma check_eq_ok_iff {c : ProjectSettings} {u : Unit} : c.check = .ok u ↔ c.Proper := by
  rw [proper_iff, check]
  cases hrun : c.run with
  | none => simp [refuse_eq_ok_iff, serverApi?, root?, hrun]
  | some s =>
    have hs {u : Unit} : s.check = .ok u ↔
        (∀ api, s.serverApi = some api → isApiName api = true) ∧ s.root ≠ some "" := by
      rw [RunSection.check]
      cases s.serverApi <;> simp [bind_eq_ok_iff, refuse_eq_ok_iff, checkApiName_eq_ok_iff]
    simp [bind_eq_ok_iff, refuse_eq_ok_iff, hs, serverApi?, root?, hrun, and_assoc]

/-- A file holds these settings. -/
def InFile (files : FileTree) (path : String) (c : ProjectSettings) : Prop :=
  ∃ document, files.HasDocument path document ∧ ofToml? document = some c ∧ c.Proper

theorem load_eq_ok_iff {files : FileTree} {path : String} {c : ProjectSettings} :
    load files path = .ok c ↔ c.InFile files path := by
  have hload : load files path = files.load path ofToml? check := by
    rw [load, FileTree.load]
    refine congrArg _ (funext fun text => ?_)
    cases (Toml.parse? text).bind ofToml? <;> rfl
  simp only [hload, FileTree.load_eq_ok_iff, InFile, check_eq_ok_iff]

end ProjectSettings

/-! ### Users -/

namespace UserSettings

/-- Settings that a user may have. -/
def Proper (c : UserSettings) : Prop := ∀ api, c.serverApi? = some api → isApiName api = true

lemma check_eq_ok_iff {c : UserSettings} {u : Unit} : c.check = .ok u ↔ c.Proper := by
  rw [check, Proper]
  cases c.serverApi? <;> simp [checkApiName_eq_ok_iff]

/-- A file holds these settings. -/
def InFile (files : FileTree) (path : String) (c : UserSettings) : Prop :=
  ∃ document, files.HasDocument path document ∧ ofToml? document = some c ∧ c.Proper

theorem load_eq_ok_iff {files : FileTree} {path : String} {c : UserSettings} :
    load files path = .ok c ↔ c.InFile files path := by
  have hload : load files path = files.load path ofToml? check := by
    rw [load, FileTree.load]
    refine congrArg _ (funext fun text => ?_)
    cases (Toml.parse? text).bind ofToml? <;> rfl
  simp only [hload, FileTree.load_eq_ok_iff, InFile, check_eq_ok_iff]

/-- A file that holds no settings counts as empty. -/
def CountsAs (files : FileTree) (path : String) (c : UserSettings) : Prop :=
  c.InFile files path ∨ (¬ ∃ c', InFile files path c') ∧ c = .empty

theorem loadOrEmpty_eq_iff {files : FileTree} {path : String} {c : UserSettings} :
    loadOrEmpty files path = c ↔ c.CountsAs files path := by
  rw [loadOrEmpty, CountsAs, ← load_eq_ok_iff]
  cases hload : load files path with
  | ok d =>
    have hd : d.InFile files path := load_eq_ok_iff.1 hload
    obtain ⟨_, ⟨bytes, _, hread, -⟩, -⟩ := hd
    have hsome : ¬ ¬ ∃ c', InFile files path c' := fun h => h ⟨d, load_eq_ok_iff.1 hload⟩
    simp [FileTree.contains_of_read hread, hsome]
  | error e =>
    have hnone : ¬ ∃ c', InFile files path c' := fun ⟨_, h⟩ =>
      nomatch hload.symm.trans (load_eq_ok_iff.2 h)
    rw [ite_self]
    simp [hnone, @eq_comm _ c]

end UserSettings

end ScriptRun
