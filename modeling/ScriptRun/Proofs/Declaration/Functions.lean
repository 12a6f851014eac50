import ScriptRun.Declaration.Function
import Mathlib.Data.List.Induction
import Mathlib.Data.List.Nodup
import Mathlib.Tactic.Lemma

/-!
# Functions as one catalog

The functions of an application and those of a run over it behave as one catalog that received
both (`LayeredFunctions.flat_declareAll`), in all that can be asked of them: by name, by place, and
in their number. In such a catalog names and places determine each other (`at?_eq_some_iff`), and
what stands at a place stays there (`at?_insertAll`).
-/

namespace ScriptRun

variable {κ : Type}

/-! ### Tags -/

lemma TagSupply.issueMany_fst (n : Nat) (supply : TagSupply) :
    (issueMany n supply).1 = (List.range' supply.next n).map Tag.mk := by
  induction n generalizing supply with
  | zero => rfl
  | succ n ih =>
    rw [List.range'_succ, List.map_cons, ← ih ⟨supply.next + 1⟩]
    rfl

/-- No tag is issued twice. -/
lemma TagSupply.nodup_issueMany (n : Nat) (supply : TagSupply) :
    (issueMany n supply).1.Nodup := by
  rw [issueMany_fst]
  exact (List.nodup_range' ..).map fun _ _ => Tag.mk.inj

/-- Functions that were made one after another, each with a tag that was issued for it. Other tags
may have been issued in between. -/
def Minted (fs : List (FunctionDecl κ)) : Prop :=
  ∃ (supply : TagSupply) (n : Nat), (fs.map (·.tag)).Sublist (supply.issueMany n).1

lemma Minted.eq_of_tag_eq {fs : List (FunctionDecl κ)} {f g : FunctionDecl κ} (h : Minted fs)
    (hf : f ∈ fs) (hg : g ∈ fs) (htag : f.tag = g.tag) : f = g := by
  obtain ⟨supply, n, h⟩ := h
  exact List.inj_on_of_nodup_map ((supply.nodup_issueMany n).sublist h) hf hg htag

/-! ### One catalog -/

namespace FunctionCatalog

variable {t : FunctionCatalog κ} {f g : FunctionDecl κ} {name : String} {i : Nat}

/-- What declaring a function leaves, whether it is refused or not. -/
def after (t : FunctionCatalog κ) (f : FunctionDecl κ) : FunctionCatalog κ :=
  match t.insert f with
  | .ok (_, t) => t
  | .error _ => t

/-- What declaring functions one after another leaves. -/
def insertAll (t : FunctionCatalog κ) (fs : List (FunctionDecl κ)) : FunctionCatalog κ :=
  fs.foldl after t

lemma insert_of_none (h : t.get? f.name = none) : t.insert f = .ok (true, ⟨t.entries ++ [f]⟩) := by
  rw [insert, h]

lemma insert_of_same (h : t.get? f.name = some g) (hg : g.tag = f.tag) :
    t.insert f = .ok (false, t) := by
  simp only [insert, h, hg, if_true]

lemma insert_of_other (h : t.get? f.name = some g) (hg : g.tag ≠ f.tag) :
    t.insert f = .error (.redeclared .function f.name) := by
  simp only [insert, h, hg, if_false]

/-- A function is added behind all others if its name is free, and else nothing happens. -/
lemma after_cases (t : FunctionCatalog κ) (f : FunctionDecl κ) :
    t.after f = t ∨ t.get? f.name = none ∧ t.after f = ⟨t.entries ++ [f]⟩ := by
  cases h : t.get? f.name with
  | none =>
    rw [after, insert_of_none h]
    exact .inr ⟨rfl, rfl⟩
  | some g =>
    by_cases hg : g.tag = f.tag
    · rw [after, insert_of_same h hg]
      exact .inl rfl
    · rw [after, insert_of_other h hg]
      exact .inl rfl

lemma entries_prefix_after (t : FunctionCatalog κ) (f : FunctionDecl κ) :
    t.entries <+: (t.after f).entries := by
  rcases t.after_cases f with h | ⟨-, h⟩
  · exact h.symm ▸ List.prefix_refl _
  · rw [h]
    exact List.prefix_append _ _

lemma entries_prefix_insertAll (t : FunctionCatalog κ) (fs : List (FunctionDecl κ)) :
    t.entries <+: (t.insertAll fs).entries := by
  induction fs generalizing t with
  | nil => exact List.prefix_refl _
  | cons f fs ih => exact (t.entries_prefix_after f).trans (ih (t.after f))

/-- What stands at a place stays there. -/
lemma at?_insertAll (h : t.at? i = some f) (fs : List (FunctionDecl κ)) :
    (t.insertAll fs).at? i = some f := by
  obtain ⟨hi, rfl⟩ := List.getElem?_eq_some_iff.1 h
  exact List.prefix_iff_getElem?.1 (t.entries_prefix_insertAll fs) i hi

lemma mem_insertAll {fs : List (FunctionDecl κ)} (h : f ∈ (t.insertAll fs).entries) :
    f ∈ t.entries ∨ f ∈ fs := by
  induction fs generalizing t with
  | nil => exact .inl h
  | cons g fs ih =>
    rcases ih (t := t.after g) h with h | h
    · rcases t.after_cases g with hg | ⟨-, hg⟩
      · exact .inl (hg ▸ h)
      · rw [hg] at h
        rcases List.mem_append.1 h with h | h
        · exact .inl h
        · exact .inr (List.mem_singleton.1 h ▸ List.mem_cons_self)
    · exact .inr (List.mem_cons_of_mem g h)

/-! ### Names and places -/

/-- A folded name belongs to one function at most. -/
def Keyed (t : FunctionCatalog κ) : Prop := (t.entries.map fun f => nameKey f.name).Nodup

lemma get?_eq_none_iff :
    t.get? name = none ↔ ∀ f ∈ t.entries, nameKey f.name ≠ nameKey name := by
  rw [get?, List.find?_eq_none]
  simp only [beq_iff_eq, ne_eq]

lemma Keyed.after (ht : t.Keyed) (f : FunctionDecl κ) : (t.after f).Keyed := by
  rcases t.after_cases f with h | ⟨hfree, h⟩
  · rw [h]
    exact ht
  · rw [h, Keyed, List.map_append]
    refine List.Nodup.append ht (List.nodup_singleton _) fun key hold hnew => ?_
    obtain ⟨g, hg, hkey⟩ := List.mem_map.1 hold
    exact get?_eq_none_iff.1 hfree g hg (hkey.trans (List.mem_singleton.1 hnew))

lemma keyed_insertAll (fs : List (FunctionDecl κ)) : (insertAll .empty fs).Keyed := by
  induction fs using List.reverseRecOn with
  | nil => exact .nil
  | append_singleton fs f ih =>
    rw [insertAll, List.foldl_append]
    exact ih.after f

lemma Keyed.position?_eq_some_iff (ht : t.Keyed) :
    t.position? name = some i ↔ ∃ f, t.at? i = some f ∧ nameKey f.name = nameKey name := by
  rw [position?, List.findIdx?_eq_some_iff_getElem]
  constructor
  · rintro ⟨hi, hkey, -⟩
    exact ⟨_, List.getElem?_eq_getElem hi, beq_iff_eq.1 hkey⟩
  · rintro ⟨f, hf, hkey⟩
    obtain ⟨hi, rfl⟩ := List.getElem?_eq_some_iff.1 hf
    refine ⟨hi, beq_iff_eq.2 hkey, fun j hji hj => ?_⟩
    have hdiffer := List.pairwise_iff_getElem.1 (List.pairwise_map.1 ht) j i
      (Nat.lt_trans hji hi) hi hji
    exact hdiffer ((beq_iff_eq.1 hj).trans hkey.symm)

/-- A function is at a place exactly if it is declared and its name belongs to that place. -/
lemma Keyed.at?_eq_some_iff (ht : t.Keyed) :
    t.at? i = some f ↔ f ∈ t.entries ∧ t.position? f.name = some i := by
  rw [ht.position?_eq_some_iff]
  constructor
  · intro h
    exact ⟨List.mem_of_getElem? h, f, h, rfl⟩
  · rintro ⟨hf, g, hg, hkey⟩
    rwa [List.inj_on_of_nodup_map ht hf (List.mem_of_getElem? hg) hkey.symm]

end FunctionCatalog

/-! ### Two layers as one catalog -/

namespace LayeredFunctions

variable {r : LayeredFunctions κ} {f : FunctionDecl κ} {name : String} {i : Nat}

/-- What declaring a function for the run leaves, whether it is refused or not. -/
def after (r : LayeredFunctions κ) (f : FunctionDecl κ) : LayeredFunctions κ :=
  match r.declare f with
  | .ok r => r
  | .error _ => r

/-- What declaring functions for the run one after another leaves. -/
def declareAll (r : LayeredFunctions κ) (fs : List (FunctionDecl κ)) : LayeredFunctions κ :=
  fs.foldl after r

/-- All that a run sees as one catalog. -/
def flat (r : LayeredFunctions κ) : FunctionCatalog κ := ⟨r.app.entries ++ r.own.entries⟩

lemma flat_ofApp (t : FunctionCatalog κ) : (ofApp t).flat = t :=
  congrArg FunctionCatalog.mk (List.append_nil t.entries)

lemma lookup?_eq_get? (r : LayeredFunctions κ) (name : String) :
    r.lookup? name = r.flat.get? name :=
  List.find?_append.symm

lemma index?_eq_position? (r : LayeredFunctions κ) (name : String) :
    r.index? name = r.flat.position? name := by
  rw [index?, flat, FunctionCatalog.position?, FunctionCatalog.position?,
    FunctionCatalog.position?, FunctionCatalog.size, List.findIdx?_append]
  simp only [Nat.add_comm]

lemma at?_eq_at? (r : LayeredFunctions κ) (i : Nat) : r.at? i = r.flat.at? i :=
  List.getElem?_append.symm

lemma size_eq_size (r : LayeredFunctions κ) : r.size = r.flat.size := List.length_append.symm

/-- Declaring for the run is declaring in the whole. -/
lemma flat_declare (r : LayeredFunctions κ) (f : FunctionDecl κ) :
    (r.declare f).map flat = (r.flat.insert f).map (·.2) := by
  have hflat := r.lookup?_eq_get? f.name
  rw [lookup?] at hflat
  cases happ : r.app.get? f.name with
  | some g =>
    rw [happ] at hflat
    by_cases hg : g.tag = f.tag
    · rw [FunctionCatalog.insert_of_same hflat.symm hg]
      simp only [declare, happ, hg, if_true]
      rfl
    · rw [FunctionCatalog.insert_of_other hflat.symm hg]
      simp only [declare, happ, hg, if_false]
      rfl
  | none =>
    rw [happ, Option.none_or] at hflat
    rw [declare, happ]
    cases hown : r.own.get? f.name with
    | none =>
      rw [FunctionCatalog.insert_of_none (hflat.symm.trans hown)]
      simp only [FunctionCatalog.insert_of_none hown, flat, List.append_assoc]
      rfl
    | some g =>
      by_cases hg : g.tag = f.tag
      · rw [FunctionCatalog.insert_of_same (hflat.symm.trans hown) hg]
        simp only [FunctionCatalog.insert_of_same hown hg]
        rfl
      · rw [FunctionCatalog.insert_of_other (hflat.symm.trans hown) hg]
        simp only [FunctionCatalog.insert_of_other hown hg]
        rfl

lemma flat_after (r : LayeredFunctions κ) (f : FunctionDecl κ) :
    (r.after f).flat = r.flat.after f := by
  have h := r.flat_declare f
  rw [after, FunctionCatalog.after]
  cases hr : r.declare f with
  | error e =>
    cases hi : r.flat.insert f with
    | error e' => rfl
    | ok x => rw [hr, hi] at h; cases h
  | ok r' =>
    cases hi : r.flat.insert f with
    | error e => rw [hr, hi] at h; cases h
    | ok x => rw [hr, hi] at h; exact Except.ok.inj h

lemma flat_declareAll (r : LayeredFunctions κ) (fs : List (FunctionDecl κ)) :
    (r.declareAll fs).flat = r.flat.insertAll fs := by
  induction fs generalizing r with
  | nil => rfl
  | cons f fs ih =>
    rw [declareAll, FunctionCatalog.insertAll, List.foldl_cons, List.foldl_cons, ← flat_after]
    exact ih (r.after f)

/-- The functions of the application and of the run make the catalog that all of them make. -/
lemma flat_history (builtin declared : List (FunctionDecl κ)) :
    ((ofApp (.insertAll .empty builtin)).declareAll declared).flat =
      .insertAll .empty (builtin ++ declared) := by
  rw [flat_declareAll, flat_ofApp]
  exact List.foldl_append.symm

/-- What a call site remembers of a function stays right. -/
lemma at?_declareAll (h : r.at? i = some f) (fs : List (FunctionDecl κ)) :
    (r.declareAll fs).at? i = some f := by
  rw [at?_eq_at?] at h ⊢
  rw [flat_declareAll]
  exact FunctionCatalog.at?_insertAll h fs

lemma declareAll_append (r : LayeredFunctions κ) (fs gs : List (FunctionDecl κ)) :
    r.declareAll (fs ++ gs) = (r.declareAll fs).declareAll gs :=
  List.foldl_append

/-- A function has the tag that is expected and is the one its name belongs to, if no other one that
is declared has its tag. -/
lemma confirms_iff (h : ∀ g ∈ r.toList, g.tag = f.tag → g = f) (expected : Tag) :
    r.confirms f expected = true ↔ expected = f.tag ∧ r.lookup? f.name = some f := by
  rw [confirms, Bool.and_eq_true_iff, beq_iff_eq, eq_comm]
  refine and_congr_right fun htag => ?_
  subst htag
  cases hf : r.lookup? f.name with
  | none => simp
  | some g =>
    rw [lookup?_eq_get?] at hf
    rw [beq_iff_eq, Option.some.injEq]
    exact ⟨h g (List.mem_of_find?_eq_some hf), congrArg FunctionDecl.tag⟩

/-- A run whose functions answer all that can be asked of them as one catalog does. -/
structure ActsAs (r : LayeredFunctions κ) (t : FunctionCatalog κ) : Prop where
  declare : ∀ f, (r.declare f).map flat = (t.insert f).map (·.2)
  lookup : ∀ name, r.lookup? name = t.get? name
  index : ∀ name, r.index? name = t.position? name
  place : ∀ i, r.at? i = t.at? i
  listed : r.toList = t.entries
  size : r.size = t.size

lemma actsAs_flat (r : LayeredFunctions κ) : r.ActsAs r.flat where
  declare := r.flat_declare
  lookup := r.lookup?_eq_get?
  index := r.index?_eq_position?
  place := r.at?_eq_at?
  listed := rfl
  size := r.size_eq_size

end LayeredFunctions

end ScriptRun
