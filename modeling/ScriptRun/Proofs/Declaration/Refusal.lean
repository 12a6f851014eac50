import ScriptRun.Proofs.Declaration.Layers

/-!
# Refused further names

A further name is refused if it belongs to another type, or if the type's own name does. The type is
declared before its further name is looked at, and stays declared when that is refused. So a refusal
changes nothing exactly if the type had been declared, or if the refusal came before: from the names
of the application, which are looked at first.
-/

namespace ScriptRun

/-! ### In a catalog -/

namespace TypeCatalog

variable {t t' : TypeCatalog} {d e : TypeDecl} {a : String} {x : RunError}

lemma listing_ne (t : TypeCatalog) (d : TypeDecl) : t.listing d ≠ t := by
  intro h
  have hentries : t.entries ++ [d] = t.entries := congrArg (·.entries) h
  exact List.cons_ne_nil d [] (List.append_right_eq_self.1 hentries)

/-- A type whose own name was given leaves the catalog as it is or is listed there. -/
lemma insert_cases {b : Bool} (h : t.insert d = .ok (b, t')) :
    t.get? d.name = none ∧ t' = t.listing d ∨ t.get? d.name ≠ none ∧ t' = t := by
  cases hd : t.get? d.name with
  | none =>
    rw [insert_of_none hd] at h
    cases h
    exact .inl ⟨rfl, rfl⟩
  | some e =>
    refine .inr ⟨Option.some_ne_none e, ?_⟩
    by_cases he : e.tag = d.tag
    · rw [insert_of_same hd he] at h
      cases h
      rfl
    · rw [insert_of_other hd he] at h
      cases h

lemma ne_none_of_insert {b : Bool} (h : t.insert d = .ok (b, t')) : t'.get? d.name ≠ none := by
  rcases insert_cases h with ⟨hd, rfl⟩ | ⟨hd, rfl⟩
  · rw [get?_listing, hd, if_pos rfl]
    exact Option.some_ne_none d
  · exact hd

lemma ne_none_of_insert_error (h : t.insert d = .error x) : t.get? d.name ≠ none := by
  intro hd
  rw [insert_of_none hd] at h
  cases h

/-- What a refused further name leaves: the type, if its own name was free. -/
lemma insertAlias_error (h : t.insertAlias d a = (.error x, t')) :
    t.get? d.name = none ∧ t' = t.listing d ∨ t.get? d.name ≠ none ∧ t' = t := by
  cases hi : t.insert d with
  | error y =>
    rw [insertAlias_of_error hi] at h
    cases h
    exact .inr ⟨ne_none_of_insert_error hi, rfl⟩
  | ok y =>
    obtain ⟨b, t₁⟩ := y
    have hleft : t' = t₁ := by
      rw [insertAlias_of_ok hi] at h
      cases hb : t₁.bind a d with
      | error z =>
        rw [hb] at h
        cases h
        rfl
      | ok z =>
        rw [hb] at h
        cases h
    rw [hleft]
    exact insert_cases hi

lemma insertAlias_error_of_known (hd : t.get? d.name ≠ none)
    (h : t.insertAlias d a = (.error x, t')) : t' = t := by
  rcases insertAlias_error h with ⟨hfree, -⟩ | ⟨-, ht⟩
  · exact absurd hfree hd
  · exact ht

/-- Listing a type gives it no further name. -/
lemma aliases_listing (he : e.tag = d.tag → e = d) : (t.listing d).aliases e = t.aliases e := by
  have hown : (nameKey d.name != nameKey e.name && d.tag == e.tag) = false := by
    by_cases htag : e.tag = d.tag
    · rw [he htag, bne_self_eq_false, Bool.false_and]
    · rw [beq_eq_false_iff_ne.2 (Ne.symm htag), Bool.and_false]
  rw [aliases, listing, named, List.filter_append, List.filter_cons_of_neg (by simp [hown]),
    List.filter_nil, List.append_nil]
  rfl

end TypeCatalog

/-! ### In a run -/

namespace LayeredTypes

variable {r r' : LayeredTypes} {d e : TypeDecl} {a : String} {x : RunError}

/-- The registry of a run with one more type. -/
def listing (r : LayeredTypes) (d : TypeDecl) : LayeredTypes := { r with own := r.own.listing d }

lemma listing_ne (r : LayeredTypes) (d : TypeDecl) : r.listing d ≠ r := by
  intro h
  exact r.own.listing_ne d (congrArg (·.own) h)

lemma lookup?_eq_none_iff {name : String} :
    r.lookup? name = none ↔ r.app.get? name = none ∧ r.own.get? name = none :=
  Option.or_eq_none_iff

lemma lookup?_ne_none_of_app {name : String} (h : r.app.get? name = some e) :
    r.lookup? name ≠ none := by
  rw [Ne, lookup?_eq_none_iff, h]
  exact fun h => Option.some_ne_none e h.1

/-- A type that is not the application's own and was declared has a name that the application does
not know. -/
lemma app_get?_of_declare (hd : r.inApp d = false) (h : r.declare d = .ok r') :
    r.app.get? d.name = none := by
  cases happ : r.app.get? d.name with
  | none => rfl
  | some e =>
    have he : e.tag ≠ d.tag := fun he =>
      Bool.eq_false_iff.1 hd (inApp_eq_true_iff.2 ⟨e, happ, he⟩)
    simp only [declare, happ, he, if_false] at h
    cases h

lemma declare_of_free (h : r.lookup? d.name = none) : r.declare d = .ok (r.listing d) := by
  obtain ⟨happ, hown⟩ := lookup?_eq_none_iff.1 h
  rw [declare, happ, TypeCatalog.insert_of_none hown]
  rfl

lemma ne_none_of_declare_error (h : r.declare d = .error x) : r.lookup? d.name ≠ none := by
  rw [lookup?_eq_get?]
  exact TypeCatalog.ne_none_of_insert_error (flat_insert_of_error h)

/-- What a refused further name leaves: the type, if its own name was free and the application does
not know the further one. -/
lemma declareAlias_error (h : r.declareAlias d a = (.error x, r')) :
    (r.app.get? a = none ∧ r.lookup? d.name = none) ∧ r' = r.listing d ∨
      (r.app.get? a ≠ none ∨ r.lookup? d.name ≠ none) ∧ r' = r := by
  cases happ : r.app.get? a with
  | some e =>
    rw [declareAlias, happ] at h
    exact .inr ⟨.inl (Option.some_ne_none e), (congrArg (·.2) h).symm⟩
  | none =>
    rw [declareAlias, happ] at h
    cases hd : r.inApp d with
    | true =>
      obtain ⟨e, he, -⟩ := inApp_eq_true_iff.1 hd
      refine .inr ⟨.inr (lookup?_ne_none_of_app he), ?_⟩
      simp only [hd, if_true] at h
      cases hb : r.own.bind a d with
      | error y =>
        rw [hb] at h
        exact (congrArg (·.2) h).symm
      | ok y =>
        rw [hb] at h
        cases h
    | false =>
      simp only [hd, Bool.false_eq_true, if_false] at h
      cases hdecl : r.declare d with
      | error y =>
        rw [hdecl] at h
        exact .inr ⟨.inr (ne_none_of_declare_error hdecl), (congrArg (·.2) h).symm⟩
      | ok r₁ =>
        obtain ⟨b, own, hown, rfl⟩ := declare_of_not_inApp hd hdecl
        -- the type is declared by now, so a refusal leaves the run's own catalog alone
        have hleft : r' = { r with own } := by
          simp only [hdecl] at h
          cases hi : own.insertAlias d a with
          | mk result own' =>
            rw [hi] at h
            cases result with
            | ok fresh => cases h
            | error y =>
              cases h
              rw [TypeCatalog.insertAlias_error_of_known (TypeCatalog.ne_none_of_insert hown) hi]
        have happd : r.app.get? d.name = none := app_get?_of_declare hd hdecl
        rw [hleft]
        rcases TypeCatalog.insert_cases hown with ⟨hfree, rfl⟩ | ⟨hfree, rfl⟩
        · exact .inl ⟨⟨rfl, lookup?_eq_none_iff.2 ⟨happd, hfree⟩⟩, rfl⟩
        · exact .inr ⟨.inr fun hnone => hfree (lookup?_eq_none_iff.1 hnone).2, rfl⟩

/-- What a run sees once one more type is listed: the type under its own name, and all else as it
was. -/
structure Lists (r r' : LayeredTypes) (d : TypeDecl) : Prop where
  lookup name : r'.lookup? name =
    (r.lookup? name).or (if nameKey d.name = nameKey name then some d else none)
  toList : r'.toList = r.toList ++ [d]
  size : r'.size = r.size + 1
  aliases e (he : e.tag = d.tag → e = d) : r'.aliases e = r.aliases e

lemma lists_listing (r : LayeredTypes) (d : TypeDecl) : Lists r (r.listing d) d where
  lookup name := by
    rw [lookup?_eq_get?, lookup?_eq_get?, listing, flat_listing, TypeCatalog.get?_listing]
  toList := (List.append_assoc r.app.entries r.own.entries [d]).symm
  size := by
    rw [LayeredTypes.size, LayeredTypes.size, TypeCatalog.size, listing, TypeCatalog.listing,
      TypeCatalog.size, List.length_append, List.length_singleton, Nat.add_assoc]
    rfl
  aliases e he := by
    rw [LayeredTypes.aliases, LayeredTypes.aliases, listing, TypeCatalog.aliases_listing he]

end LayeredTypes

/-- A refused further name leaves all as it was if the type had been declared. If it had not, the
refusal leaves what declaring the type leaves, and nothing but that; only names of the application
are looked at before. -/
theorem refused_alias (d : TypeDecl) (a : String) (x : RunError) :
    (∀ t t' : TypeCatalog, t.insertAlias d a = (.error x, t') →
      (t' = t ↔ t.get? d.name ≠ none) ∧
      (t.get? d.name = none → t.insert d = .ok (true, t'))) ∧
    ∀ r r' : LayeredTypes, r.declareAlias d a = (.error x, r') →
      (r' = r ↔ r.lookup? d.name ≠ none ∨ r.app.get? a ≠ none) ∧
      (r.lookup? d.name = none → r.app.get? a = none →
        r.declare d = .ok r' ∧ r.Lists r' d) := by
  constructor
  · intro t t' h
    rcases TypeCatalog.insertAlias_error h with ⟨hfree, rfl⟩ | ⟨hknown, rfl⟩
    · refine ⟨iff_of_false (t.listing_ne d) fun hne => hne hfree, fun _ => ?_⟩
      exact TypeCatalog.insert_of_none hfree
    · exact ⟨iff_of_true rfl hknown, fun hfree => absurd hfree hknown⟩
  · intro r r' h
    rcases LayeredTypes.declareAlias_error h with ⟨⟨happ, hfree⟩, rfl⟩ | ⟨hknown, rfl⟩
    · refine ⟨iff_of_false (r.listing_ne d) ?_, fun _ _ => ⟨?_, r.lists_listing d⟩⟩
      · exact not_or.2 ⟨fun hne => hne hfree, fun hne => hne happ⟩
      · exact LayeredTypes.declare_of_free hfree
    · refine ⟨iff_of_true rfl hknown.symm, fun hfree happ => ?_⟩
      exact (hknown.elim (· happ) (· hfree)).elim

/-! ### Two shapes -/

/-- A type of a name, told apart by its number. -/
def TypeDecl.shape (i : Nat) (name : String) : TypeDecl :=
  { tag := ⟨i⟩, name, autoload := false, base := none }

/-- A run that has declared some shapes. -/
def LayeredTypes.shapes (ds : List TypeDecl) : LayeredTypes :=
  ds.foldl listing (.ofApp .empty)

/-- Once both shapes are declared, neither can take the other's name, and the attempt changes
nothing. -/
theorem refused_alias_shapes :
    let r := LayeredTypes.shapes [.shape 0 "Circle", .shape 1 "Square"]
    ∃ x r', r.declareAlias (.shape 1 "Square") "circle" = (.error x, r') ∧ r' = r := by
  intro r
  have h : ∃ x r', r.declareAlias (.shape 1 "Square") "circle" = (.error x, r') := ⟨_, _, rfl⟩
  obtain ⟨x, r', h⟩ := h
  have hknown : r.lookup? "Square" ≠ none := by decide +kernel
  exact ⟨x, r', h, (((refused_alias _ _ x).2 r r' h).1).2 (.inl hknown)⟩

/-- A shape that was not declared, and is refused the name of one that was, is declared from then
on. -/
theorem declared_by_refusal :
    ∃ r x r', (LayeredTypes.ofApp .empty).declare (.shape 0 "Circle") = .ok r ∧
      r.declareAlias (.shape 1 "Square") "circle" = (.error x, r') ∧
      r.lookup? "square" = none ∧ r'.lookup? "square" = some (.shape 1 "Square") ∧
      r.size = 1 ∧ r'.size = 2 :=
  ⟨_, _, _, rfl, rfl, rfl, rfl, rfl, rfl⟩

end ScriptRun
