import ScriptRun.Value.Bindings
import Mathlib.Data.List.Nodup
import Mathlib.Data.List.Perm.Subperm
import Mathlib.Tactic.Lemma

/-!
# Equality of values

Values are compared item by item down to their leaves, and of the leaves only a NaN differs from
itself. So a value equals itself exactly if no NaN stands in it, at whatever depth.

Two values are equal exactly if they are alike at each position, where only zeros may have another
sign. Equality is therefore symmetric and transitive, and so is that of bindings, which are compared
name by name.
-/

namespace ScriptRun

/-! ### Numbers -/

namespace Binary64

lemma same_self (x : Binary64) : x.same x = !x.isNaN := by
  rw [same, beq_self_eq_true, Bool.true_or, Bool.and_true, Bool.and_self]

lemma isNaN_of_isZero {x : Binary64} (h : x.isZero = true) : x.isNaN = false := by
  rw [isZero, Bool.and_eq_true, beq_iff_eq] at h
  rw [isNaN, h.1]
  rfl

/-- A number equals itself, and the zeros equal each other. -/
lemma same_iff {x y : Binary64} :
    x.same y = true ↔ (x.isNaN = false ∧ x = y) ∨ (x.isZero = true ∧ y.isZero = true) := by
  simp only [same, Bool.and_eq_true, Bool.or_eq_true, Bool.not_eq_true', beq_iff_eq]
  constructor
  · rintro ⟨⟨hx, -⟩, h⟩
    exact h.imp_left fun h => ⟨hx, h⟩
  · rintro (⟨hx, rfl⟩ | ⟨hx, hy⟩)
    · exact ⟨⟨hx, hx⟩, .inl rfl⟩
    · exact ⟨⟨isNaN_of_isZero hx, isNaN_of_isZero hy⟩, .inr ⟨hx, hy⟩⟩

end Binary64

namespace Value

/-- A NaN stands somewhere in a value. -/
inductive HasNaN : Value → Prop
  | float {x : Binary64} (h : x.isNaN = true) : HasNaN (.float x)
  | item {v : Value} {items : List Value} (hv : v ∈ items) (h : v.HasNaN) : HasNaN (.array items)

mutual

/-- A value equals itself exactly if no NaN stands in it. -/
theorem same_self_iff (v : Value) : v.same v = true ↔ ¬ v.HasNaN := by
  match v with
  | .null => exact iff_of_true rfl nofun
  | .bool _ | .int _ | .str _ => exact iff_of_true (beq_self_eq_true _) nofun
  | .float x =>
    rw [same, Binary64.same_self, Bool.not_eq_true', ← Bool.not_eq_true]
    exact not_congr ⟨.float, fun | .float h => h⟩
  | .array items =>
    rw [same, sameItems_self_iff items]
    constructor
    · intro h hnan
      cases hnan with
      | item hv hnan => exact h _ hv hnan
    · exact fun h v hv hnan => h (.item hv hnan)

lemma sameItems_self_iff (items : List Value) :
    sameItems items items = true ↔ ∀ v ∈ items, ¬ v.HasNaN := by
  match items with
  | [] => exact iff_of_true rfl nofun
  | v :: items =>
    rw [sameItems, Bool.and_eq_true, same_self_iff v, sameItems_self_iff items,
      List.forall_mem_cons]

end

instance (v : Value) : Decidable v.HasNaN :=
  decidable_of_iff (¬ v.same v = true) ((not_congr (same_self_iff v)).trans Classical.not_not)

/-! ### Positions -/

/-- The value at a position, which is given by the indices that lead there through the arrays. -/
def at? : Value → List Nat → Option Value
  | v, [] => some v
  | .array items, i :: position => items[i]?.bind (at? · position)
  | _, _ :: _ => none

/-- Two values that stand at the same position of equal ones. They are of one kind, and differ only
in the sign of a zero, or further down. -/
inductive Alike : Value → Value → Prop
  | null : Alike .null .null
  | bool (b : Bool) : Alike (.bool b) (.bool b)
  | int (i : Int64) : Alike (.int i) (.int i)
  | float {x : Binary64} (h : x.isNaN = false) : Alike (.float x) (.float x)
  | zero {x y : Binary64} (hx : x.isZero = true) (hy : y.isZero = true) :
    Alike (.float x) (.float y)
  | str (s : String) : Alike (.str s) (.str s)
  | array (items items' : List Value) : Alike (.array items) (.array items')

@[simp] lemma at?_nil (v : Value) : v.at? [] = some v := rfl

namespace Alike

variable {u v w : Value}

lemma symm (h : Alike v w) : Alike w v := by
  cases h with
  | zero hx hy => exact .zero hy hx
  | array items items' => exact .array items' items
  | _ => constructor <;> assumption

lemma trans (h : Alike u v) (h' : Alike v w) : Alike u w := by
  cases h with
  | null | bool | int | str | float => exact h'
  | zero hx hy =>
    cases h' with
    | float => exact .zero hx hy
    | zero _ hz => exact .zero hx hz
  | array items =>
    cases h' with
    | array _ items' => exact .array items items'

lemma rel_symm {a b : Option Value} (h : Option.Rel Alike a b) : Option.Rel Alike b a := by
  cases h with
  | some h => exact .some h.symm
  | none => exact .none

lemma rel_trans {a b c : Option Value} (h : Option.Rel Alike a b) (h' : Option.Rel Alike b c) :
    Option.Rel Alike a c := by
  cases h with
  | none => exact h'
  | some h =>
    cases h' with
    | some h' => exact .some (h.trans h')

/-- Nothing stands below what is no array. -/
lemma rel_at? (h : Alike v w) (hv : ∀ items, v ≠ .array items) (position : List Nat) :
    Option.Rel Alike (v.at? position) (w.at? position) := by
  cases position with
  | nil => exact .some h
  | cons i position =>
    cases h with
    | array items => exact absurd rfl (hv items)
    | _ => exact .none

end Alike

variable {v w : Value}

lemma same_iff_alike (hv : ∀ items, v ≠ .array items) : v.same w = true ↔ Alike v w := by
  constructor
  · intro h
    cases v with
    | null =>
      cases w with
      | null => exact .null
      | _ => cases h
    | bool b =>
      cases w with
      | bool b' => exact eq_of_beq h ▸ .bool b
      | _ => cases h
    | int i =>
      cases w with
      | int i' => exact eq_of_beq h ▸ .int i
      | _ => cases h
    | float x =>
      cases w with
      | float y =>
        rcases Binary64.same_iff.1 h with ⟨hx, rfl⟩ | ⟨hx, hy⟩
        · exact .float hx
        · exact .zero hx hy
      | _ => cases h
    | str s =>
      cases w with
      | str s' => exact eq_of_beq h ▸ .str s
      | _ => cases h
    | array items => exact absurd rfl (hv items)
  · intro h
    cases h with
    | null => rfl
    | bool | int | str => exact beq_self_eq_true _
    | float h => exact Binary64.same_iff.2 (.inl ⟨h, rfl⟩)
    | zero hx hy => exact Binary64.same_iff.2 (.inr ⟨hx, hy⟩)
    | array items => exact absurd rfl (hv items)

mutual

/-- Values are equal exactly if they are alike at each position. -/
theorem same_iff_at (v w : Value) :
    v.same w = true ↔ ∀ position, Option.Rel Alike (v.at? position) (w.at? position) := by
  match v with
  | .array items =>
    cases w with
    | array items' =>
      rw [same, sameItems_iff_at items items']
      constructor
      · rintro h (_ | ⟨i, position⟩)
        · exact .some (.array items items')
        · exact h i position
      · exact fun h i position => h (i :: position)
    | _ =>
      refine iff_of_false Bool.false_ne_true fun h => ?_
      cases Option.rel_some_some.1 (h [])
  | .null | .bool _ | .int _ | .float _ | .str _ =>
    refine (same_iff_alike ?_).trans
      ⟨fun h => h.rel_at? ?_, fun h => Option.rel_some_some.1 (h [])⟩ <;> nofun

lemma sameItems_iff_at (items items' : List Value) :
    sameItems items items' = true ↔ ∀ (i : Nat) position, Option.Rel Alike
      (items[i]?.bind (at? · position)) (items'[i]?.bind (at? · position)) := by
  match items, items' with
  | [], [] => exact iff_of_true rfl fun _ _ => .none
  | [], w :: ws => exact iff_of_false Bool.false_ne_true fun h => nomatch h 0 []
  | v :: vs, [] => exact iff_of_false Bool.false_ne_true fun h => nomatch h 0 []
  | v :: vs, w :: ws =>
    rw [sameItems, Bool.and_eq_true, same_iff_at v w, sameItems_iff_at vs ws]
    constructor
    · rintro ⟨hfirst, hrest⟩ (_ | i)
      · exact hfirst
      · exact hrest i
    · exact fun h => ⟨h 0, fun i => h (i + 1)⟩

end

lemma same_comm (v w : Value) : v.same w = w.same v := by
  have hsymm {v w : Value} (h : v.same w = true) : w.same v = true := by
    rw [same_iff_at] at h ⊢
    exact fun position => Alike.rel_symm (h position)
  exact Bool.eq_iff_iff.2 ⟨hsymm, hsymm⟩

lemma same_trans {u v w : Value} (h : u.same v = true) (h' : v.same w = true) :
    u.same w = true := by
  rw [same_iff_at] at h h' ⊢
  exact fun position => Alike.rel_trans (h position) (h' position)

end Value

/-! ### Bindings -/

namespace Bindings

variable {a b : Bindings} {name : String} {v : Value}

lemma mem_entries_iff : (name, v) ∈ a.entries ↔ a.get? name = some v := by
  rw [get?, Option.map_eq_some_iff]
  constructor
  · intro h
    have hfound : (a.entries.find? (·.1 == name)).isSome := by
      rw [List.find?_isSome]
      exact ⟨(name, v), h, beq_self_eq_true name⟩
    obtain ⟨entry, hentry⟩ := Option.isSome_iff_exists.1 hfound
    -- no variable is listed twice
    have hname := List.find?_some hentry
    rw [beq_iff_eq] at hname
    obtain rfl := List.inj_on_of_nodup_map a.distinct (List.mem_of_find?_eq_some hentry) h hname
    exact ⟨(name, v), hentry, rfl⟩
  · rintro ⟨⟨name', v⟩, hentry, rfl⟩
    have hname := List.find?_some hentry
    rw [beq_iff_eq] at hname
    subst hname
    exact List.mem_of_find?_eq_some hentry

lemma mem_names_iff : name ∈ a.entries.map (·.1) ↔ a.contains name = true := by
  rw [List.mem_map, contains, Option.isSome_iff_exists]
  constructor
  · rintro ⟨⟨name, v⟩, hmem, rfl⟩
    exact ⟨v, mem_entries_iff.1 hmem⟩
  · rintro ⟨v, hv⟩
    exact ⟨(name, v), mem_entries_iff.2 hv, rfl⟩

lemma isSome_eq_of_rel {r : Value → Value → Prop} {x y : Option Value} (h : Option.Rel r x y) :
    x.isSome = y.isSome := by
  cases h with
  | some => rfl
  | none => rfl

/-- Bindings are equal exactly if they give values to the same names, and equal ones to each. -/
lemma same_iff : a.same b = true ↔
    ∀ name, Option.Rel (fun v w => v.same w = true) (a.get? name) (b.get? name) := by
  rw [same, Bool.and_eq_true, beq_iff_eq, List.all_eq_true]
  constructor
  · rintro ⟨hsize, hentries⟩
    have hgives {name : String} {v : Value} (hv : a.get? name = some v) :
        ∃ w, b.get? name = some w ∧ v.same w = true := by
      have h := hentries (name, v) (mem_entries_iff.2 hv)
      dsimp only at h
      cases hw : b.get? name with
      | none =>
        rw [hw] at h
        cases h
      | some w =>
        rw [hw] at h
        exact ⟨w, rfl, h⟩
    -- there are as many names here as there, so none is there alone
    have hnames : b.entries.map (·.1) ⊆ a.entries.map (·.1) := by
      have hsubset : a.entries.map (·.1) ⊆ b.entries.map (·.1) := by
        intro name hname
        obtain ⟨v, hv⟩ := Option.isSome_iff_exists.1 (mem_names_iff.1 hname)
        obtain ⟨w, hw, -⟩ := hgives hv
        exact mem_names_iff.2 (Option.isSome_iff_exists.2 ⟨w, hw⟩)
      refine ((a.distinct.subperm hsubset).perm_of_length_le ?_).symm.subset
      rw [List.length_map, List.length_map]
      exact Nat.le_of_eq hsize.symm
    intro name
    cases hv : a.get? name with
    | some v =>
      obtain ⟨w, hw, h⟩ := hgives hv
      rw [hw]
      exact .some h
    | none =>
      cases hw : b.get? name with
      | none => exact .none
      | some w =>
        have hname := hnames (mem_names_iff.2 (Option.isSome_iff_exists.2 ⟨w, hw⟩))
        rw [mem_names_iff, contains, hv] at hname
        cases hname
  · intro h
    have hnames (name : String) :
        name ∈ a.entries.map (·.1) ↔ name ∈ b.entries.map (·.1) := by
      rw [mem_names_iff, mem_names_iff, contains, contains, isSome_eq_of_rel (h name)]
    refine ⟨?_, ?_⟩
    · have hperm := (List.perm_ext_iff_of_nodup a.distinct b.distinct).2 hnames
      have hlength := hperm.length_eq
      rwa [List.length_map, List.length_map] at hlength
    · rintro ⟨name, v⟩ hmem
      have hname := h name
      rw [mem_entries_iff.1 hmem] at hname
      dsimp only
      generalize b.get? name = found at hname ⊢
      cases hname with
      | some h => exact h

end Bindings

/-- Equality of values is symmetric and transitive, and a value equals itself exactly if no NaN
stands in it. Two values are equal exactly if they have the same positions, are of one kind at each
of them, and differ at none of them but in the sign of a zero. Bindings are equal exactly if they
give values to the same names, and equal ones to each. -/
theorem equality_up_to_zeros :
    (∀ v w : Value, v.same w = w.same v) ∧
    (∀ u v w : Value, u.same v = true → v.same w = true → u.same w = true) ∧
    (∀ v : Value, v.same v = true ↔ ¬ v.HasNaN) ∧
    (∀ v w : Value, v.same w = true ↔
      ∀ position, Option.Rel Value.Alike (v.at? position) (w.at? position)) ∧
    ∀ a b : Bindings, a.same b = true ↔
      ∀ name, Option.Rel (fun v w => v.same w = true) (a.get? name) (b.get? name) :=
  ⟨Value.same_comm, fun _ _ _ => Value.same_trans, Value.same_self_iff, Value.same_iff_at,
    fun _ _ => Bindings.same_iff⟩

/-- Three values whose zeros differ in sign, at two depths. -/
theorem equality_up_to_zeros_nested :
    let zero : Value := .float ⟨0⟩
    let minus : Value := .float ⟨0x8000000000000000⟩
    Value.same (.array [zero, .array [minus, .int 0]]) (.array [zero, .array [zero, .int 0]]) ∧
    Value.same (.array [zero, .array [zero, .int 0]]) (.array [minus, .array [zero, .int 0]]) ∧
      Value.same (.array [zero, .array [minus, .int 0]]) (.array [minus, .array [zero, .int 0]]) :=
  ⟨by decide, by decide, equality_up_to_zeros.2.1 _ (.array [.float ⟨0⟩, .array [.float ⟨0⟩, .int 0]])
    _ (by decide) (by decide)⟩

end ScriptRun
