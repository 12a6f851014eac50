import ScriptRun.Declaration.Type
import Mathlib.Tactic.Lemma

/-!
# Two layers of types as one catalog

A run sees the types of the application and its own behind them. What it does to its own layer is
the same thing done to all that it sees (`flat_insert`, `declareAlias_cases`), except that a further
name which the application knows is left alone.
-/

namespace ScriptRun

/-! ### Writing into a catalog -/

namespace TypeCatalog

variable {t t' : TypeCatalog} {d e : TypeDecl} {name a : String} {b : Bool}

/-- A catalog with one more name. -/
def named (t : TypeCatalog) (name : String) (d : TypeDecl) : TypeCatalog :=
  { t with names := t.names ++ [⟨nameKey name, name, d⟩] }

/-- A catalog with one more type, under its own name. -/
def listing (t : TypeCatalog) (d : TypeDecl) : TypeCatalog :=
  { t.named d.name d with entries := t.entries ++ [d] }

lemma get?_eq_none_iff : t.get? name = none ↔ ∀ n ∈ t.names, n.key ≠ nameKey name := by
  rw [get?, Option.map_eq_none_iff, List.find?_eq_none]
  simp only [beq_iff_eq, ne_eq]

lemma exists_of_get? (h : t.get? name = some d) :
    ∃ n ∈ t.names, n.key = nameKey name ∧ n.type = d := by
  obtain ⟨n, hn, rfl⟩ := Option.map_eq_some_iff.1 h
  have hkey := List.find?_some hn
  exact ⟨n, List.mem_of_find?_eq_some hn, beq_iff_eq.1 hkey, rfl⟩

lemma get?_named : (t.named a d).get? name =
    (t.get? name).or (if nameKey a = nameKey name then some d else none) := by
  rw [get?, get?, named, List.find?_append, Option.map_or]
  congr 1
  by_cases h : nameKey a = nameKey name <;> simp [h]

lemma get?_listing : (t.listing d).get? name =
    (t.get? name).or (if nameKey d.name = nameKey name then some d else none) := get?_named

lemma get?_named_self (h : t.get? name = none) : (t.named name d).get? name = some d := by
  rw [get?_named, h, if_pos rfl]
  rfl

lemma bind_of_none (h : t.get? name = none) : t.bind name d = .ok (true, t.named name d) := by
  rw [bind, h]
  rfl

lemma bind_of_same (h : t.get? name = some e) (he : e.tag = d.tag) :
    t.bind name d = .ok (false, t) := by
  simp only [bind, h, he, if_true]

lemma bind_of_other (h : t.get? name = some e) (he : e.tag ≠ d.tag) :
    t.bind name d = .error (.redeclared .type name) := by
  simp only [bind, h, he, if_false]

lemma insert_of_none (h : t.get? d.name = none) : t.insert d = .ok (true, t.listing d) := by
  rw [insert, bind_of_none h]
  rfl

lemma insert_of_same (h : t.get? d.name = some e) (he : e.tag = d.tag) :
    t.insert d = .ok (false, t) := by
  rw [insert, bind_of_same h he]

lemma insert_of_other (h : t.get? d.name = some e) (he : e.tag ≠ d.tag) :
    t.insert d = .error (.redeclared .type d.name) := by
  rw [insert, bind_of_other h he]

/-- A type that has been declared finds itself declared. -/
lemma insert_insert (h : t.insert d = .ok (b, t')) : t'.insert d = .ok (false, t') := by
  cases hd : t.get? d.name with
  | none =>
    rw [insert_of_none hd] at h
    cases h
    exact insert_of_same (get?_named_self hd) rfl
  | some e =>
    by_cases he : e.tag = d.tag
    · rw [insert_of_same hd he] at h
      cases h
      exact insert_of_same hd he
    · rw [insert_of_other hd he] at h
      cases h

lemma insertAlias_of_ok (h : t.insert d = .ok (b, t')) :
    t.insertAlias d a =
      match t'.bind a d with
      | .error e => (.error e, t')
      | .ok (fresh, t') => (.ok fresh, t') := by
  cases hb : t'.bind a d with
  | error e => simp only [insertAlias, h, hb]
  | ok x => simp only [insertAlias, h, hb]

lemma insertAlias_of_error {e : RunError} (h : t.insert d = .error e) :
    t.insertAlias d a = (.error e, t) := by
  simp only [insertAlias, h]

end TypeCatalog

/-! ### Two layers as one catalog -/

namespace LayeredTypes

variable {r r' : LayeredTypes} {d e : TypeDecl} {name a : String}

/-- All that a run sees as one catalog. -/
def flat (r : LayeredTypes) : TypeCatalog :=
  ⟨r.app.entries ++ r.own.entries, r.app.names ++ r.own.names⟩

lemma flat_of_own (h : r.own = .empty) : r.flat = r.app := by
  rw [flat, h]
  simp only [TypeCatalog.empty, List.append_nil]

lemma lookup?_eq_get? (r : LayeredTypes) (name : String) : r.lookup? name = r.flat.get? name := by
  rw [lookup?, flat, TypeCatalog.get?, TypeCatalog.get?, TypeCatalog.get?, List.find?_append,
    Option.map_or]

lemma flat_get?_of_app (h : r.app.get? name = some e) : r.flat.get? name = some e := by
  rw [← lookup?_eq_get?, lookup?, h]
  rfl

lemma flat_get?_of_own (h : r.app.get? name = none) : r.flat.get? name = r.own.get? name := by
  rw [← lookup?_eq_get?, lookup?, h]
  rfl

lemma flat_named (r : LayeredTypes) (name : String) (d : TypeDecl) :
    ({ r with own := r.own.named name d } : LayeredTypes).flat = r.flat.named name d := by
  simp only [flat, TypeCatalog.named, List.append_assoc]

lemma flat_listing (r : LayeredTypes) (d : TypeDecl) :
    ({ r with own := r.own.listing d } : LayeredTypes).flat = r.flat.listing d := by
  simp only [flat, TypeCatalog.listing, TypeCatalog.named, List.append_assoc]

/-- A name that the application does not know is given by the run as by the whole. -/
lemma flat_bind (h : r.app.get? name = none) :
    r.flat.bind name d =
      (r.own.bind name d).map fun (fresh, own) => (fresh, { r with own }.flat) := by
  cases hown : r.own.get? name with
  | none =>
    have hflat := (flat_get?_of_own h).trans hown
    rw [TypeCatalog.bind_of_none hown, TypeCatalog.bind_of_none hflat, ← flat_named]
    rfl
  | some e =>
    have hflat := (flat_get?_of_own h).trans hown
    by_cases he : e.tag = d.tag
    · rw [TypeCatalog.bind_of_same hown he, TypeCatalog.bind_of_same hflat he]
      rfl
    · rw [TypeCatalog.bind_of_other hown he, TypeCatalog.bind_of_other hflat he]
      rfl

/-- Declaring for the run is declaring in the whole. -/
lemma flat_insert (r : LayeredTypes) (d : TypeDecl) :
    (r.flat.insert d).map (·.2) = (r.declare d).map flat := by
  cases happ : r.app.get? d.name with
  | some e =>
    have hflat := flat_get?_of_app happ
    by_cases he : e.tag = d.tag
    · rw [TypeCatalog.insert_of_same hflat he]
      simp only [declare, happ, he, if_true]
      rfl
    · rw [TypeCatalog.insert_of_other hflat he]
      simp only [declare, happ, he, if_false]
      rfl
  | none =>
    rw [declare, happ]
    cases hown : r.own.get? d.name with
    | none =>
      have hflat := (flat_get?_of_own happ).trans hown
      rw [TypeCatalog.insert_of_none hflat, ← flat_listing]
      simp only [TypeCatalog.insert_of_none hown]
      rfl
    | some e =>
      have hflat := (flat_get?_of_own happ).trans hown
      by_cases he : e.tag = d.tag
      · rw [TypeCatalog.insert_of_same hflat he]
        simp only [TypeCatalog.insert_of_same hown he]
        rfl
      · rw [TypeCatalog.insert_of_other hflat he]
        simp only [TypeCatalog.insert_of_other hown he]
        rfl

lemma flat_insert_of_ok (h : r.declare d = .ok r') : ∃ b, r.flat.insert d = .ok (b, r'.flat) := by
  have hf := flat_insert r d
  rw [h] at hf
  cases hi : r.flat.insert d with
  | error e =>
    rw [hi] at hf
    cases hf
  | ok x =>
    obtain ⟨b, t⟩ := x
    rw [hi] at hf
    have ht : t = r'.flat := Except.ok.inj hf
    exact ⟨b, by rw [ht]⟩

lemma flat_insert_of_error {x : RunError} (h : r.declare d = .error x) :
    r.flat.insert d = .error x := by
  have hf := flat_insert r d
  rw [h] at hf
  cases hi : r.flat.insert d with
  | error e =>
    rw [hi] at hf
    cases hf
    rfl
  | ok x =>
    rw [hi] at hf
    cases hf

lemma inApp_eq_true_iff : r.inApp d = true ↔ ∃ e, r.app.get? d.name = some e ∧ e.tag = d.tag := by
  rw [inApp]
  cases r.app.get? d.name with
  | none => simp
  | some e => simp

/-- Declaring a type that is not the application's own is declaring it in the upper layer. -/
lemma declare_of_not_inApp (hd : r.inApp d = false) (h : r.declare d = .ok r') :
    ∃ b own, r.own.insert d = .ok (b, own) ∧ r' = { r with own } := by
  rw [declare] at h
  cases happ : r.app.get? d.name with
  | some e =>
    have he : e.tag ≠ d.tag := fun he =>
      Bool.eq_false_iff.1 hd (inApp_eq_true_iff.2 ⟨e, happ, he⟩)
    simp only [happ, he, if_false] at h
    cases h
  | none =>
    rw [happ] at h
    cases hi : r.own.insert d with
    | error x =>
      rw [hi] at h
      cases h
    | ok x =>
      rw [hi] at h
      cases h
      exact ⟨x.1, x.2, rfl, rfl⟩

/-- A further name that the application does not know is given by the run as by the whole; one that
it knows changes nothing. -/
lemma declareAlias_cases (r : LayeredTypes) (d : TypeDecl) (a : String) :
    (∃ e, r.app.get? a = some e ∧ r.declareAlias d a =
      (if e.tag = d.tag then .ok () else .error (.redeclared .type a), r)) ∨
    (r.declareAlias d a).1 = (r.flat.insertAlias d a).1.map (fun _ => ()) ∧
      (r.declareAlias d a).2.flat = (r.flat.insertAlias d a).2 := by
  cases happ : r.app.get? a with
  | some e =>
    refine .inl ⟨e, rfl, ?_⟩
    rw [declareAlias, happ]
  | none =>
    refine .inr ?_
    rw [declareAlias, happ]
    cases hd : r.inApp d with
    | true =>
      obtain ⟨e, he, htag⟩ := inApp_eq_true_iff.1 hd
      have hi := TypeCatalog.insert_of_same (flat_get?_of_app he) htag
      rw [TypeCatalog.insertAlias_of_ok hi, flat_bind happ]
      cases r.own.bind a d with
      | error x => exact ⟨rfl, rfl⟩
      | ok x => exact ⟨rfl, rfl⟩
    | false =>
      cases hdecl : r.declare d with
      | error x =>
        rw [TypeCatalog.insertAlias_of_error (flat_insert_of_error hdecl)]
        exact ⟨rfl, rfl⟩
      | ok r' =>
        obtain ⟨b, hi⟩ := flat_insert_of_ok hdecl
        obtain ⟨b', own, hown, rfl⟩ := declare_of_not_inApp hd hdecl
        have hagain := TypeCatalog.insertAlias_of_ok (a := a) (TypeCatalog.insert_insert hown)
        rw [TypeCatalog.insertAlias_of_ok hi, flat_bind (r := { r with own }) happ]
        simp only [hagain, Bool.false_eq_true, if_false]
        cases own.bind a d with
        | error x => exact ⟨rfl, rfl⟩
        | ok x => exact ⟨rfl, rfl⟩

end LayeredTypes

end ScriptRun
