import ScriptRun.Declaration.Constant
import Mathlib.Tactic.Lemma

/-!
# Constants as one catalog

The constants of an application and those of a run over it behave as one catalog that received both
(`LayeredConstants.flat_declareAll`). A name is looked for in four places, and that the order of the
two middle ones makes no difference rests on `LayeredConstants.Separate`: no constant of the run has
a name that the application answers to.
-/

namespace ScriptRun

/-! ### One catalog -/

namespace ConstantCatalog

variable {t : ConstantCatalog} {c d : Constant} {name : String}

/-- What declaring a constant leaves. -/
def after (t : ConstantCatalog) (c : Constant) : ConstantCatalog := (t.insert c).2

/-- What declaring constants one after another leaves. -/
def insertAll (t : ConstantCatalog) (cs : List Constant) : ConstantCatalog := cs.foldl after t

lemma get?_singleton (c : Constant) : (⟨[c]⟩ : ConstantCatalog).get? c.name = some c := by
  rw [get?, List.find?_singleton, List.find?_singleton]
  cases h : c.ignoreCase <;> simp

/-- Constants behind those of a catalog do not come before any of them, if the catalog answers to
none of their names. -/
lemma get?_append {cs : List Constant} (h : ∀ c ∈ cs, t.get? c.name = none) (name : String) :
    (⟨t.entries ++ cs⟩ : ConstantCatalog).get? name =
      (t.get? name).or ((⟨cs⟩ : ConstantCatalog).get? name) := by
  -- found as it is spelled, a later constant would have a name that the catalog answers to
  have hlater : t.get? name ≠ none →
      cs.find? (fun c => !c.ignoreCase && c.name == name) = none := by
    intro hname
    rw [List.find?_eq_none]
    intro c hc hexact
    obtain ⟨-, rfl⟩ : c.ignoreCase = false ∧ c.name = name := by simpa using hexact
    exact hname (h c hc)
  rw [get?, List.find?_append, List.find?_append]
  cases ht : t.get? name with
  | none =>
    rw [get?, Option.or_eq_none_iff] at ht
    rw [ht.1, ht.2]
    rfl
  | some d =>
    rw [hlater (by simp [ht]), Option.or_none, ← Option.or_assoc]
    rw [get?] at ht
    rw [ht]
    rfl

lemma insert_of_some (h : t.get? c.name = some d) :
    t.insert c = (if d.value.same c.value then .unchanged else .conflict d.value, t) := by
  rw [insert, h]

lemma insert_of_none (h : t.get? c.name = none) : t.insert c = (.new, ⟨t.entries ++ [c]⟩) := by
  rw [insert, h]

/-- A constant is new exactly if its name stood for none. -/
lemma insert_new_iff : (t.insert c).1 = .new ↔ t.get? c.name = none := by
  cases h : t.get? c.name with
  | none =>
    rw [insert_of_none h]
    exact iff_of_true rfl rfl
  | some d =>
    rw [insert_of_some h]
    refine iff_of_false (fun hnew => ?_) (by simp)
    dsimp only at hnew
    split at hnew <;> cases hnew

lemma after_of_some (h : t.get? c.name = some d) : t.after c = t := by
  rw [after, insert_of_some h]

lemma get?_after_of_none (h : t.get? c.name = none) (name : String) :
    (t.after c).get? name = (t.get? name).or ((⟨[c]⟩ : ConstantCatalog).get? name) := by
  rw [after, insert_of_none h]
  refine get?_append (fun e he => ?_) name
  rw [List.mem_singleton.1 he]
  exact h

/-- What a name stands for, it stands for ever after. -/
lemma get?_after (h : t.get? name = some d) (c : Constant) : (t.after c).get? name = some d := by
  cases hc : t.get? c.name with
  | some e => rw [after_of_some hc, h]
  | none =>
    rw [get?_after_of_none hc, h]
    rfl

lemma get?_insertAll (h : t.get? name = some d) (cs : List Constant) :
    (t.insertAll cs).get? name = some d := by
  induction cs generalizing t with
  | nil => exact h
  | cons c cs ih => exact ih (get?_after h c)

end ConstantCatalog

/-! ### Two layers as one catalog -/

namespace LayeredConstants

variable {r : LayeredConstants} {c d : Constant} {name : String}

/-- What declaring a constant for the run leaves. -/
def after (r : LayeredConstants) (c : Constant) : LayeredConstants := (r.declare c).2

/-- What declaring constants for the run one after another leaves. -/
def declareAll (r : LayeredConstants) (cs : List Constant) : LayeredConstants := cs.foldl after r

/-- All that a run sees as one catalog. -/
def flat (r : LayeredConstants) : ConstantCatalog := ⟨r.app.entries ++ r.own.entries⟩

/-- The application answers to the name of no constant of the run. -/
def Separate (r : LayeredConstants) : Prop := ∀ c ∈ r.own.entries, r.app.get? c.name = none

lemma separate_ofApp (t : ConstantCatalog) : (ofApp t).Separate := fun _ hc =>
  absurd hc List.not_mem_nil

lemma flat_ofApp (t : ConstantCatalog) : (ofApp t).flat = t :=
  congrArg ConstantCatalog.mk (List.append_nil t.entries)

lemma lookup?_eq_get? (hr : r.Separate) (name : String) : r.lookup? name = r.flat.get? name :=
  (ConstantCatalog.get?_append hr name).symm

lemma declare_of_app (h : r.app.get? c.name = some d) :
    r.declare c = (if d.value.same c.value then .unchanged else .conflict d.value, r) := by
  rw [declare, h]

lemma declare_of_own (h : r.app.get? c.name = none) :
    r.declare c = ((r.own.insert c).1, { r with own := (r.own.insert c).2 }) := by
  rw [declare, h]

/-- Declaring for the run is declaring in the whole. -/
lemma flat_declare (hr : r.Separate) (c : Constant) :
    ((r.declare c).1, (r.declare c).2.flat) = r.flat.insert c := by
  have hflat := lookup?_eq_get? hr c.name
  rw [lookup?] at hflat
  cases happ : r.app.get? c.name with
  | some d =>
    rw [happ, Option.some_or] at hflat
    rw [declare_of_app happ, ConstantCatalog.insert_of_some hflat.symm]
  | none =>
    rw [happ, Option.none_or] at hflat
    rw [declare_of_own happ]
    cases hown : r.own.get? c.name with
    | some d =>
      rw [ConstantCatalog.insert_of_some hown,
        ConstantCatalog.insert_of_some (hflat.symm.trans hown)]
    | none =>
      rw [ConstantCatalog.insert_of_none hown,
        ConstantCatalog.insert_of_none (hflat.symm.trans hown), flat, flat, List.append_assoc]

lemma Separate.after (hr : r.Separate) (c : Constant) : (r.after c).Separate := by
  rw [LayeredConstants.after]
  cases happ : r.app.get? c.name with
  | some d =>
    rw [declare_of_app happ]
    exact hr
  | none =>
    rw [declare_of_own happ]
    cases hown : r.own.get? c.name with
    | some d =>
      rw [ConstantCatalog.insert_of_some hown]
      exact hr
    | none =>
      rw [ConstantCatalog.insert_of_none hown]
      intro e he
      rcases List.mem_append.1 he with he | he
      · exact hr e he
      · rw [List.mem_singleton.1 he]
        exact happ

lemma Separate.declareAll (hr : r.Separate) (cs : List Constant) : (r.declareAll cs).Separate := by
  induction cs generalizing r with
  | nil => exact hr
  | cons c cs ih => exact ih (hr.after c)

lemma flat_declareAll (hr : r.Separate) (cs : List Constant) :
    (r.declareAll cs).flat = r.flat.insertAll cs := by
  induction cs generalizing r with
  | nil => rfl
  | cons c cs ih =>
    have hc : (r.after c).flat = r.flat.after c := congrArg Prod.snd (flat_declare hr c)
    rw [declareAll, ConstantCatalog.insertAll, List.foldl_cons, List.foldl_cons, ← hc]
    exact ih (hr.after c)

/-- The constants of the application and of the run make the catalog that all of them make. -/
lemma flat_history (builtin declared : List Constant) :
    ((ofApp (.insertAll .empty builtin)).declareAll declared).flat =
      .insertAll .empty (builtin ++ declared) := by
  rw [flat_declareAll (separate_ofApp _), flat_ofApp]
  exact List.foldl_append.symm

lemma declareAll_append (r : LayeredConstants) (cs ds : List Constant) :
    r.declareAll (cs ++ ds) = (r.declareAll cs).declareAll ds :=
  List.foldl_append

/-- What a name stands for, it stands for to the end of the run. -/
lemma lookup?_declareAll (hr : r.Separate) (h : r.lookup? name = some d) (cs : List Constant) :
    (r.declareAll cs).lookup? name = some d := by
  rw [lookup?_eq_get? hr] at h
  rw [lookup?_eq_get? (hr.declareAll cs), flat_declareAll hr]
  exact ConstantCatalog.get?_insertAll h cs

/-- A constant is new exactly if its name stood for none. -/
lemma declare_new_iff (hr : r.Separate) : (r.declare c).1 = .new ↔ r.lookup? c.name = none := by
  rw [lookup?_eq_get? hr, ← ConstantCatalog.insert_new_iff, ← flat_declare hr]

/-- A constant that is not new changes nothing. -/
lemma after_of_not_new (h : (r.declare c).1 ≠ .new) : r.after c = r := by
  rw [after]
  cases happ : r.app.get? c.name with
  | some d => rw [declare_of_app happ]
  | none =>
    rw [declare_of_own happ] at h ⊢
    obtain ⟨d, hd⟩ := Option.ne_none_iff_exists'.1 (mt ConstantCatalog.insert_new_iff.2 h)
    rw [ConstantCatalog.insert_of_some hd]

/-- A new constant stands behind all others. -/
lemma toList_after_of_new (hr : r.Separate) (h : (r.declare c).1 = .new) :
    (r.after c).toList = r.toList ++ [c] := by
  rw [declare_new_iff hr, lookup?_eq_get? hr] at h
  have hflat := flat_declare hr c
  rw [ConstantCatalog.insert_of_none h] at hflat
  exact congrArg (fun x => x.2.entries) hflat

/-- The name of a new constant stands for it. -/
lemma lookup?_after_of_new (hr : r.Separate) (h : (r.declare c).1 = .new) :
    (r.after c).lookup? c.name = some c := by
  rw [declare_new_iff hr, lookup?_eq_get? hr] at h
  have hflat : (r.after c).flat = r.flat.after c := congrArg Prod.snd (flat_declare hr c)
  rw [lookup?_eq_get? (hr.after c), hflat, ConstantCatalog.get?_after_of_none h, h,
    ConstantCatalog.get?_singleton]
  rfl

/-- A run whose constants answer all that can be asked of them as one catalog does. -/
structure ActsAs (r : LayeredConstants) (t : ConstantCatalog) : Prop where
  declare : ∀ c, ((r.declare c).1, (r.declare c).2.flat) = t.insert c
  lookup : ∀ name, r.lookup? name = t.get? name
  listed : r.toList = t.entries
  size : r.size = t.size

lemma Separate.actsAs (hr : r.Separate) : r.ActsAs r.flat where
  declare := flat_declare hr
  lookup := lookup?_eq_get? hr
  listed := rfl
  size := List.length_append.symm

end LayeredConstants

end ScriptRun
