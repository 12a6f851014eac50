import ScriptRun.Proofs.Declaration.Layers
import Mathlib.Data.List.Induction
import Mathlib.Data.List.Nodup
import Mathlib.Logic.Relation

/-!
# Naming types

Whatever call gives a name to a type, and whether it fails or not, it writes one of two things any
number of times: a type under its own name, and a further name of a type that is listed. Names are
consistent (`TypeCatalog.Sound`) as long as nothing else is written.
-/

namespace ScriptRun

open Relation

/-! ### Calls -/

/-- The calls that give names to types: those that set an application up, and those of a run. -/
inductive TypeCall where
  | insert (d : TypeDecl)
  | insertAlias (d : TypeDecl) (further : String)
  | declare (d : TypeDecl)
  | declareAlias (d : TypeDecl) (further : String)

namespace TypeCall

/-- The type that is given a name. -/
def type : TypeCall → TypeDecl
  | insert d | insertAlias d _ | declare d | declareAlias d _ => d

/-- The further name that is given. -/
def further? : TypeCall → Option String
  | insert _ | declare _ => none
  | insertAlias _ a | declareAlias _ a => some a

/-- Whether a call belongs to a run. -/
def ofRun : TypeCall → Bool
  | insert _ | insertAlias _ _ => false
  | declare _ | declareAlias _ _ => true

/-- What a call leaves, whether it fails or not. -/
def apply (r : LayeredTypes) : TypeCall → LayeredTypes
  | insert d =>
    match r.app.insert d with
    | .ok (_, app) => { r with app }
    | .error _ => r
  | insertAlias d a => { r with app := (r.app.insertAlias d a).2 }
  | declare d =>
    match r.declare d with
    | .ok r => r
    | .error _ => r
  | declareAlias d a => (r.declareAlias d a).2

/-- An application is set up before the run begins. -/
def InOrder (calls : List TypeCall) : Prop :=
  calls.Pairwise fun c c' => c.ofRun = true → c'.ofRun = true

/-- What calls leave of nothing. -/
def applyAll (calls : List TypeCall) : LayeredTypes := calls.foldl apply (.ofApp .empty)

lemma applyAll_concat (calls : List TypeCall) (c : TypeCall) :
    applyAll (calls ++ [c]) = apply (applyAll calls) c := by
  rw [applyAll, List.foldl_append]
  rfl

lemma own_apply {c : TypeCall} (hc : c.ofRun = false) (r : LayeredTypes) :
    (apply r c).own = r.own := by
  cases c with
  | insert d =>
    dsimp only [apply]
    split
    · rfl
    · rfl
  | insertAlias d a => rfl
  | declare => cases hc
  | declareAlias => cases hc

/-- Until the run begins it has no names of its own. -/
lemma own_applyAll {calls : List TypeCall} (h : ∀ c ∈ calls, c.ofRun = false) :
    (applyAll calls).own = .empty := by
  induction calls using List.reverseRecOn with
  | nil => rfl
  | append_singleton calls c ih =>
    obtain ⟨hcalls, hc⟩ := List.forall_mem_append.1 h
    rw [applyAll_concat, own_apply (hc c (List.mem_singleton_self c)), ih hcalls]

end TypeCall

/-! ### What calls write -/

/-- A step of writing: a type that is new under its own name, or a further name of a type that is
listed. -/
inductive Write (c : TypeCall) (t : TypeCatalog) : TypeCatalog → Prop
  | listing (h : t.get? c.type.name = none) : Write c t (t.listing c.type)
  | naming (a : String) (ha : c.further? = some a) (hd : t.get? c.type.name = some c.type)
    (h : t.get? a = none) : Write c t (t.named a c.type)

/-- Any number of steps of writing. -/
abbrev Writes (c : TypeCall) : TypeCatalog → TypeCatalog → Prop := ReflTransGen (Write c)

/-- A catalog whose names are consistent, of types among some that are known. -/
structure TypeCatalog.Sound (known : TypeDecl → Prop) (t : TypeCatalog) : Prop where
  keys : (t.names.map (·.key)).Nodup
  folded : ∀ n ∈ t.names, n.key = nameKey n.spelling
  listed : ∀ n ∈ t.names, n.type ∈ t.entries
  canonical : ∀ d ∈ t.entries, t.get? d.name = some d
  nodup : t.entries.Nodup
  known : ∀ d ∈ t.entries, known d

lemma TypeCatalog.Sound.empty (known : TypeDecl → Prop) : TypeCatalog.empty.Sound known :=
  ⟨.nil, nofun, nofun, nofun, .nil, nofun⟩

/-- A tag is issued to one of the known types only. -/
def Identified (known : TypeDecl → Prop) : Prop := ∀ d e, known d → known e → d.tag = e.tag → d = e

section Writes

variable {known : TypeDecl → Prop} {c : TypeCall} {t t' : TypeCatalog} {d e : TypeDecl}
  {name : String}

lemma TypeCatalog.Sound.mem_of_get? (ht : t.Sound known) (h : t.get? name = some d) :
    d ∈ t.entries := by
  obtain ⟨n, hn, -, rfl⟩ := exists_of_get? h
  exact ht.listed n hn

lemma TypeCatalog.Sound.known_of_get? (ht : t.Sound known) (h : t.get? name = some d) : known d :=
  ht.known d (ht.mem_of_get? h)

/-- What has a name keeps it. -/
lemma Write.get? (h : Write c t t') (hd : t.get? name = some d) : t'.get? name = some d := by
  cases h with
  | listing => rw [TypeCatalog.get?_listing, hd]; rfl
  | naming => rw [TypeCatalog.get?_named, hd]; rfl

lemma Writes.get? (h : Writes c t t') (hd : t.get? name = some d) : t'.get? name = some d := by
  induction h with
  | refl => exact hd
  | tail _ h ih => exact h.get? ih

/-- What is free was free before. -/
lemma Writes.free (h : Writes c t t') (hn : t'.get? name = none) : t.get? name = none := by
  cases hg : t.get? name with
  | none => rfl
  | some e =>
    rw [Writes.get? h hg] at hn
    cases hn

/-- A new name has a new key. -/
lemma TypeCatalog.Sound.keys_concat (ht : t.Sound known) (h : t.get? name = none) :
    ((t.named name d).names.map (·.key)).Nodup := by
  rw [named, List.map_append, List.map_singleton, List.nodup_append]
  refine ⟨ht.keys, List.nodup_singleton _, fun k hk k' hk' => ?_⟩
  obtain ⟨n, hn, rfl⟩ := List.mem_map.1 hk
  rw [List.mem_singleton.1 hk']
  exact TypeCatalog.get?_eq_none_iff.1 h n hn

lemma TypeCatalog.Sound.folded_concat (ht : t.Sound known) :
    ∀ n ∈ (t.named name d).names, n.key = nameKey n.spelling := by
  intro n hn
  rcases List.mem_append.1 hn with hn | hn
  · exact ht.folded n hn
  · rw [List.mem_singleton.1 hn]

/-- Writing keeps names consistent. -/
theorem Write.sound (h : Write c t t') (hk : known c.type) (ht : t.Sound known) :
    t'.Sound known := by
  have hget {name d} : t.get? name = some d → t'.get? name = some d := h.get?
  cases h with
  | listing h =>
    have hself := TypeCatalog.get?_named_self (d := c.type) h
    refine ⟨ht.keys_concat h, ht.folded_concat, ?_, ?_, ?_, ?_⟩
    · intro n hn
      rcases List.mem_append.1 hn with hn | hn
      · exact List.mem_append_left _ (ht.listed n hn)
      · rw [List.mem_singleton.1 hn]
        exact List.mem_append_right _ (List.mem_singleton_self _)
    · intro d hd
      rcases List.mem_append.1 hd with hd | hd
      · exact hget (ht.canonical d hd)
      · rw [List.mem_singleton.1 hd]
        exact hself
    · refine List.nodup_append.2 ⟨ht.nodup, List.nodup_singleton _, ?_⟩
      rintro d hd e he rfl
      rw [List.mem_singleton.1 he] at hd
      rw [ht.canonical _ hd] at h
      cases h
    · intro d hd
      rcases List.mem_append.1 hd with hd | hd
      · exact ht.known d hd
      · rw [List.mem_singleton.1 hd]
        exact hk
  | naming a ha hd h =>
    refine ⟨ht.keys_concat h, ht.folded_concat, ?_, fun d hd => hget (ht.canonical d hd), ht.nodup,
      ht.known⟩
    intro n hn
    rcases List.mem_append.1 hn with hn | hn
    · exact ht.listed n hn
    · rw [List.mem_singleton.1 hn]
      exact ht.mem_of_get? hd

lemma Writes.sound (h : Writes c t t') (hk : known c.type) (ht : t.Sound known) :
    t'.Sound known := by
  induction h with
  | refl => exact ht
  | tail _ h ih => exact h.sound hk ih

/-- To insert a type is to write it under its own name, unless it stands there. -/
lemma writes_insert {b : Bool} (h : t.insert c.type = .ok (b, t')) :
    Writes c t t' ∧ ∃ e, t'.get? c.type.name = some e ∧ e.tag = c.type.tag := by
  cases hg : t.get? c.type.name with
  | none =>
    rw [TypeCatalog.insert_of_none hg] at h
    cases h
    exact ⟨.single (.listing hg), _, TypeCatalog.get?_named_self hg, rfl⟩
  | some e =>
    by_cases he : e.tag = c.type.tag
    · rw [TypeCatalog.insert_of_same hg he] at h
      cases h
      exact ⟨.refl, e, hg, he⟩
    · rw [TypeCatalog.insert_of_other hg he] at h
      cases h

/-- To insert a type with a further name is to write what is missing, up to a name of another
type. If there is none, both names belong to the type afterwards. -/
lemma writes_insertAlias (hid : Identified known) (hk : known c.type) (ht : t.Sound known)
    {a : String} (ha : c.further? = some a) :
    Writes c t (t.insertAlias c.type a).2 ∧
      ∀ b, (t.insertAlias c.type a).1 = .ok b →
        (t.insertAlias c.type a).2.get? a = some c.type ∧
          (t.insertAlias c.type a).2.get? c.type.name = some c.type := by
  cases hi : t.insert c.type with
  | error x =>
    rw [TypeCatalog.insertAlias_of_error hi]
    exact ⟨.refl, nofun⟩
  | ok x =>
    obtain ⟨b, t₁⟩ := x
    obtain ⟨hw, e, he, htag⟩ := writes_insert hi
    have ht₁ : t₁.Sound known := hw.sound hk ht
    have hself : t₁.get? c.type.name = some c.type := by
      rw [he, hid e c.type (ht₁.known_of_get? he) hk htag]
    rw [TypeCatalog.insertAlias_of_ok hi]
    cases hg : t₁.get? a with
    | none =>
      have hn : Write c t₁ (t₁.named a c.type) := .naming a ha hself hg
      rw [TypeCatalog.bind_of_none hg]
      exact ⟨hw.tail hn, fun _ _ => ⟨TypeCatalog.get?_named_self hg, hn.get? hself⟩⟩
    | some e' =>
      by_cases he' : e'.tag = c.type.tag
      · rw [TypeCatalog.bind_of_same hg he']
        rw [hid e' c.type (ht₁.known_of_get? hg) hk he'] at hg
        exact ⟨hw, fun _ _ => ⟨hg, hself⟩⟩
      · rw [TypeCatalog.bind_of_other hg he']
        exact ⟨hw, nofun⟩

/-- What calls write is of at most one type, which is listed unless it had its name before. -/
lemma Writes.entries (h : Writes c t t') :
    t'.entries = t.entries ∨
      t.get? c.type.name = none ∧ t'.get? c.type.name = some c.type ∧
        t'.entries = t.entries ++ [c.type] := by
  induction h with
  | refl => exact .inl rfl
  | @tail t₁ t₂ hw h ih =>
    have hget {name d} : t₁.get? name = some d → t₂.get? name = some d := h.get?
    cases h with
    | listing hnone =>
      rcases ih with ih | ⟨-, hsome, -⟩
      · exact .inr ⟨Writes.free hw hnone, TypeCatalog.get?_named_self hnone,
          congrArg (· ++ [c.type]) ih⟩
      · rw [hsome] at hnone
        cases hnone
    | naming a ha hd hnone =>
      rcases ih with ih | ⟨hn, hs, he⟩
      · exact .inl ih
      · exact .inr ⟨hn, hget hs, he⟩

/-- A name that was written was free, belongs to the type of the call, and is the type's own or the
one that the call gives. -/
lemma Writes.names (h : Writes c t t') {n : NameOfType} (hn : n ∈ t'.names) :
    n ∈ t.names ∨ n.type = c.type ∧ t.get? n.spelling = none ∧
      t'.get? n.spelling = some c.type ∧
      (n.spelling = c.type.name ∨ c.further? = some n.spelling) := by
  induction h with
  | refl => exact .inl hn
  | @tail t₁ t₂ hw h ih =>
    have hget {name d} : t₁.get? name = some d → t₂.get? name = some d := h.get?
    have hold (hn : n ∈ t₁.names) := (ih hn).imp_right fun ⟨ht, hnone, hsome, hc⟩ =>
      (⟨ht, hnone, hget hsome, hc⟩ : _ ∧ _ ∧ _ ∧ _)
    cases h with
    | listing hnone =>
      rcases List.mem_append.1 hn with hn | hn
      · exact hold hn
      · rw [List.mem_singleton.1 hn]
        exact .inr ⟨rfl, Writes.free hw hnone, TypeCatalog.get?_named_self hnone, .inl rfl⟩
    | naming a ha hd hnone =>
      rcases List.mem_append.1 hn with hn | hn
      · exact hold hn
      · rw [List.mem_singleton.1 hn]
        exact .inr ⟨rfl, Writes.free hw hnone, TypeCatalog.get?_named_self hnone, .inr ha⟩

lemma Writes.names_subset (h : Writes c t t') : t.names ⊆ t'.names := by
  induction h with
  | refl => exact List.Subset.refl _
  | tail _ h ih =>
    cases h with
    | listing => exact List.Subset.trans ih (List.subset_append_left _ _)
    | naming => exact List.Subset.trans ih (List.subset_append_left _ _)

/-- Whatever a call does to a layer, it writes into the whole. -/
theorem TypeCall.writes_apply (hid : Identified known) (hk : known c.type) {r : LayeredTypes}
    (hr : r.flat.Sound known) (hc : c.ofRun = true ∨ r.own = .empty) :
    Writes c r.flat (c.apply r).flat := by
  -- an application that is being set up is all there is
  have happ (hown : r.own = .empty) (t : TypeCatalog) :
      ({ r with app := t } : LayeredTypes).flat = t :=
    LayeredTypes.flat_of_own hown
  cases c with
  | insert d =>
    have hown := hc.resolve_left Bool.false_ne_true
    cases hi : r.app.insert d with
    | error x => simp only [apply, hi]; exact .refl
    | ok x =>
      simp only [apply, hi, happ hown]
      exact (writes_insert (c := .insert d) hi).1
  | insertAlias d a =>
    have hown := hc.resolve_left Bool.false_ne_true
    rw [LayeredTypes.flat_of_own hown] at hr ⊢
    rw [apply, happ hown]
    exact (writes_insertAlias (c := .insertAlias d a) hid hk hr rfl).1
  | declare d =>
    cases hd : r.declare d with
    | error x =>
      simp only [apply, hd]
      exact .refl
    | ok r' =>
      obtain ⟨b, hi⟩ := LayeredTypes.flat_insert_of_ok hd
      simp only [apply, hd]
      exact (writes_insert (c := .declare d) hi).1
  | declareAlias d a =>
    rcases r.declareAlias_cases d a with ⟨e, -, h⟩ | ⟨-, h⟩
    · rw [apply, h]
    · rw [apply, h]
      exact (writes_insertAlias (c := .declareAlias d a) hid hk hr rfl).1

end Writes

end ScriptRun
