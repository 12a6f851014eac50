import ScriptRun.Proofs.Declaration.Naming

/-!
# Names of types

What holds of names after any calls in their proper order, of which any may have failed. An
application is set up first, then runs declare types and further names over it; a name goes to the
first call that gives it, with the spelling of that call.
-/

namespace ScriptRun

/-! ### Histories of calls -/

section History

open TypeCall

variable {known : TypeDecl → Prop} {calls pre post : List TypeCall} {c : TypeCall} {d e : TypeDecl}
  {name : String}

/-- The calls of a program: in order, and about types of which each has a tag of its own. -/
structure TypeCall.Proper (known : TypeDecl → Prop) (calls : List TypeCall) : Prop where
  identified : Identified known
  order : InOrder calls
  known : ∀ c ∈ calls, known c.type

lemma TypeCall.Proper.before (h : Proper known (pre ++ post)) : Proper known pre where
  identified := h.identified
  order := h.order.sublist (List.sublist_append_left pre post)
  known c hc := h.known c (List.mem_append_left post hc)

/-- A call of the application meets no name of the run. -/
lemma TypeCall.Proper.own_eq (h : Proper known (calls ++ [c])) :
    c.ofRun = true ∨ (applyAll calls).own = .empty := by
  cases hc : c.ofRun with
  | true => exact .inl rfl
  | false =>
    refine .inr (own_applyAll fun c' hc' => Bool.eq_false_iff.2 fun hrun => ?_)
    have := (List.pairwise_append.1 h.order).2.2 c' hc' c (List.mem_singleton_self c) hrun
    rw [hc] at this
    cases this

lemma TypeCall.Proper.known_last (h : Proper known (calls ++ [c])) : known c.type :=
  h.known c (List.mem_append_right _ (List.mem_singleton_self c))

theorem TypeCall.Proper.sound (h : Proper known calls) : (applyAll calls).flat.Sound known := by
  -- on the calls from the last one, whether it failed or not
  induction calls using List.reverseRecOn with
  | nil => exact .empty known
  | append_singleton calls c ih =>
    rw [applyAll_concat]
    have hw := writes_apply h.identified h.known_last (ih h.before) h.own_eq
    exact hw.sound h.known_last (ih h.before)

lemma TypeCall.Proper.writes (h : Proper known (calls ++ [c])) :
    Writes c (applyAll calls).flat (applyAll (calls ++ [c])).flat := by
  rw [applyAll_concat]
  exact writes_apply h.identified h.known_last h.before.sound h.own_eq

/-- What a name belongs to it belongs to from then on. -/
lemma TypeCall.Proper.lookup_stable (h : Proper known (pre ++ post))
    (hd : (applyAll pre).lookup? name = some d) :
    (applyAll (pre ++ post)).lookup? name = some d := by
  induction post using List.reverseRecOn with
  | nil => rwa [List.append_nil]
  | append_singleton post c ih =>
    rw [← List.append_assoc] at h ⊢
    have hlast := ih h.before
    rw [LayeredTypes.lookup?_eq_get?] at hlast ⊢
    exact Writes.get? h.writes hlast

lemma TypeCall.Proper.names_subset (h : Proper known (pre ++ post)) :
    (applyAll pre).flat.names ⊆ (applyAll (pre ++ post)).flat.names := by
  induction post using List.reverseRecOn with
  | nil => rw [List.append_nil]; exact List.Subset.refl _
  | append_singleton post c ih =>
    rw [← List.append_assoc] at h ⊢
    exact List.Subset.trans (ih h.before) (Writes.names_subset h.writes)

/-- A type is listed by the call that gives it its name, and behind all others. -/
lemma TypeCall.Proper.toList_concat (h : Proper known (calls ++ [c])) :
    (applyAll (calls ++ [c])).toList = (applyAll calls).toList ∨
      (applyAll calls).lookup? c.type.name = none ∧
        (applyAll (calls ++ [c])).toList = (applyAll calls).toList ++ [c.type] := by
  refine (Writes.entries h.writes).imp_right fun ⟨hnone, _, he⟩ => ⟨?_, he⟩
  rw [LayeredTypes.lookup?_eq_get?]
  exact hnone

/-- A call that gives a type a further name. -/
def TypeCall.Gives (c : TypeCall) (d : TypeDecl) (further : String) : Prop :=
  c.type = d ∧ c.further? = some further

/-- Some call was the first to give a type a name: the name was free before, and belonged to the
type afterwards. -/
def TypeCall.FirstGiven (calls : List TypeCall) (d : TypeDecl) (further : String) : Prop :=
  ∃ pre c post, calls = pre ++ c :: post ∧ c.Gives d further ∧
    (applyAll pre).lookup? further = none ∧ (applyAll (pre ++ [c])).lookup? further = some d

/-- A name other than the type's own is spelled as the call that gave it first spelled it. -/
lemma TypeCall.Proper.firstGiven (h : Proper known calls) {n : NameOfType}
    (hn : n ∈ (applyAll calls).flat.names) (hkey : n.key ≠ nameKey n.type.name) :
    FirstGiven calls n.type n.spelling := by
  induction calls using List.reverseRecOn with
  | nil => cases hn
  | append_singleton calls c ih =>
    rcases Writes.names h.writes hn with hold | ⟨htype, hnone, hsome, hc⟩
    · obtain ⟨pre, c', post, rfl, hgiven⟩ := ih h.before hold
      exact ⟨pre, c', post ++ [c], by simp, hgiven⟩
    · have hfurther : c.further? = some n.spelling := by
        refine hc.resolve_left fun hown => hkey ?_
        rw [h.sound.folded n hn, hown, htype]
      refine ⟨calls, c, [], rfl, ⟨htype.symm, hfurther⟩, ?_, ?_⟩
      · rw [LayeredTypes.lookup?_eq_get?]
        exact hnone
      · rw [LayeredTypes.lookup?_eq_get?, htype]
        exact hsome

/-- A name that a call gave first is there with the spelling of the call. -/
lemma TypeCall.Proper.exists_of_firstGiven (h : Proper known calls) {a : String}
    (ha : nameKey a ≠ nameKey d.name) (hgiven : FirstGiven calls d a) :
    ∃ n ∈ (applyAll calls).flat.names, n.spelling = a ∧ n.type = d := by
  obtain ⟨pre, c, post, rfl, ⟨rfl, hfurther⟩, hnone, hsome⟩ := hgiven
  rw [List.append_cons] at h ⊢
  rw [LayeredTypes.lookup?_eq_get?] at hnone hsome
  obtain ⟨n, hn, hkey, htype⟩ := TypeCatalog.exists_of_get? hsome
  refine ⟨n, h.names_subset hn, ?_, htype⟩
  rcases Writes.names h.before.writes hn with hold | ⟨-, -, -, hc⟩
  · exact absurd hkey (TypeCatalog.get?_eq_none_iff.1 hnone n hold)
  · rcases hc with hc | hc
    · -- not the name that the call may have given the type as its own
      rw [h.before.sound.folded n hn, hc] at hkey
      exact absurd hkey.symm ha
    · rw [hfurther] at hc
      exact (Option.some.inj hc).symm

end History

/-! ### Further names -/

section Aliases

variable {known : TypeDecl → Prop} {r r' : LayeredTypes} {d e : TypeDecl} {a : String}

/-- The further names of a type, in the order in which they were given. -/
def TypeCatalog.furtherNames (t : TypeCatalog) (d : TypeDecl) : List NameOfType :=
  t.names.filter fun n => n.key != nameKey d.name && n.type.tag == d.tag

lemma LayeredTypes.aliases_perm (r : LayeredTypes) (d : TypeDecl) :
    (r.aliases d).Perm ((r.flat.furtherNames d).map (·.spelling)) := by
  rw [TypeCatalog.furtherNames, flat, List.filter_append, List.map_append]
  exact (List.mergeSort_perm _ _).append (List.mergeSort_perm _ _)

lemma LayeredTypes.nodup_aliases (hr : r.flat.Sound known) (d : TypeDecl) :
    (r.aliases d).Nodup := by
  have hkeys : (r.flat.names.map (·.spelling)).map nameKey = r.flat.names.map (·.key) := by
    rw [List.map_map]
    exact List.map_congr_left fun n hn => (hr.folded n hn).symm
  have hnodup : (r.flat.names.map (·.spelling)).Nodup := .of_map nameKey (hkeys ▸ hr.keys)
  exact (r.aliases_perm d).nodup_iff.2 (hnodup.sublist (List.filter_sublist.map _))

lemma LayeredTypes.mem_aliases_iff (hid : Identified known) (hr : r.flat.Sound known)
    (hd : known d) :
    a ∈ r.aliases d ↔
      nameKey a ≠ nameKey d.name ∧ ∃ n ∈ r.flat.names, n.spelling = a ∧ n.type = d := by
  rw [(r.aliases_perm d).mem_iff, List.mem_map]
  constructor
  · rintro ⟨n, hn, rfl⟩
    obtain ⟨hn, hcond⟩ := List.mem_filter.1 hn
    obtain ⟨hkey, htag⟩ := Bool.and_eq_true_iff.1 hcond
    have htype : n.type = d := hid _ _ (hr.known _ (hr.listed n hn)) hd (beq_iff_eq.1 htag)
    rw [bne_iff_ne, hr.folded n hn] at hkey
    exact ⟨hkey, n, hn, rfl, htype⟩
  · rintro ⟨hkey, n, hn, rfl, rfl⟩
    refine ⟨n, List.mem_filter.2 ⟨hn, ?_⟩, rfl⟩
    rw [Bool.and_eq_true_iff, bne_iff_ne, hr.folded n hn]
    exact ⟨hkey, beq_self_eq_true _⟩

/-! ### Declaring -/

/-- Declaring a type fails exactly if its name belongs to another one. -/
lemma LayeredTypes.declare_error_iff (hid : Identified known) (hr : r.flat.Sound known)
    (hd : known d) :
    (∃ x, r.declare d = .error x) ↔ ∃ e, r.lookup? d.name = some e ∧ e ≠ d := by
  rw [lookup?_eq_get?]
  constructor
  · rintro ⟨x, h⟩
    have hi := flat_insert_of_error h
    cases hg : r.flat.get? d.name with
    | none =>
      rw [TypeCatalog.insert_of_none hg] at hi
      cases hi
    | some e =>
      refine ⟨e, rfl, ?_⟩
      rintro rfl
      rw [TypeCatalog.insert_of_same hg rfl] at hi
      cases hi
  · rintro ⟨e, hg, hne⟩
    have htag : e.tag ≠ d.tag := fun htag => hne (hid e d (hr.known_of_get? hg) hd htag)
    cases hdecl : r.declare d with
    | error x => exact ⟨x, rfl⟩
    | ok r' =>
      obtain ⟨b, hi⟩ := flat_insert_of_ok hdecl
      rw [TypeCatalog.insert_of_other hg htag] at hi
      cases hi

/-- A further name that is given finds the type, and so does its own. -/
lemma LayeredTypes.lookup?_declareAlias (hid : Identified known) (hr : r.flat.Sound known)
    (hd : known d) (h : r.declareAlias d a = (.ok (), r')) :
    r'.lookup? a = some d ∧ r'.lookup? d.name = some d := by
  rw [lookup?_eq_get?, lookup?_eq_get?]
  rcases r.declareAlias_cases d a with ⟨e, happ, hsame⟩ | ⟨hresult, hflat⟩
  · rw [h] at hsame
    have hg := flat_get?_of_app happ
    by_cases htag : e.tag = d.tag
    · obtain rfl := hid e d (hr.known_of_get? hg) hd htag
      obtain ⟨-, rfl⟩ := Prod.mk.inj hsame
      exact ⟨hg, hr.canonical e (hr.mem_of_get? hg)⟩
    · rw [if_neg htag] at hsame
      cases hsame
  · rw [h] at hresult hflat
    obtain ⟨-, hok⟩ := writes_insertAlias (c := .declareAlias d a) hid hd hr rfl
    change r'.flat = (r.flat.insertAlias d a).2 at hflat
    rw [hflat]
    cases hi : (r.flat.insertAlias d a).1 with
    | error x =>
      rw [hi] at hresult
      cases hresult
    | ok b => exact hok b hi

end Aliases

/-- The names of types are consistent whatever calls there were, failed ones included: a folded name
belongs to one type, and for good; what can be found at all is found under its own name and listed
once, in the order of declaration; a declaration fails exactly if its name belongs to another type;
a further name that was given finds the type; and further names are listed as they were first
spelled. -/
theorem type_names_consistent {known : TypeDecl → Prop} {calls : List TypeCall}
    (h : TypeCall.Proper known calls) :
    let r := TypeCall.applyAll calls
    (∀ n ∈ r.app.names ++ r.own.names, ∀ m ∈ r.app.names ++ r.own.names, n.key = m.key → n = m) ∧
    (∀ pre post, calls = pre ++ post → ∀ name d,
      (TypeCall.applyAll pre).lookup? name = some d → r.lookup? name = some d) ∧
    (∀ name d, r.lookup? name = some d → r.lookup? d.name = some d ∧ d ∈ r.toList) ∧
    (∀ d ∈ r.toList, r.lookup? d.name = some d) ∧
    (r.toList.Nodup ∧ r.size = r.toList.length) ∧
    (∀ pre c post, calls = pre ++ c :: post →
      (TypeCall.applyAll (pre ++ [c])).toList = (TypeCall.applyAll pre).toList ∨
        (TypeCall.applyAll pre).lookup? c.type.name = none ∧
          (TypeCall.applyAll (pre ++ [c])).toList = (TypeCall.applyAll pre).toList ++ [c.type]) ∧
    (∀ d, known d →
      ((∃ x, r.declare d = .error x) ↔ ∃ e, r.lookup? d.name = some e ∧ e ≠ d)) ∧
    (∀ d a r', known d → r.declareAlias d a = (.ok (), r') →
      r'.lookup? a = some d ∧ r'.lookup? d.name = some d) ∧
    ∀ d, known d → (r.aliases d).Nodup ∧ ∀ a,
      a ∈ r.aliases d ↔ nameKey a ≠ nameKey d.name ∧ TypeCall.FirstGiven calls d a := by
  intro r
  have hr : r.flat.Sound known := h.sound
  refine ⟨?_, ?_, ?_, ?_, ⟨hr.nodup, ?_⟩, ?_, ?_, ?_, ?_⟩
  · exact fun n hn m hm => List.inj_on_of_nodup_map hr.keys hn hm
  · rintro pre post rfl name d hd
    exact h.lookup_stable hd
  · intro name d hd
    rw [LayeredTypes.lookup?_eq_get?] at hd ⊢
    have hmem := hr.mem_of_get? hd
    exact ⟨hr.canonical d hmem, hmem⟩
  · intro d hd
    rw [LayeredTypes.lookup?_eq_get?]
    exact hr.canonical d hd
  · exact List.length_append.symm
  · rintro pre c post rfl
    rw [List.append_cons] at h
    exact h.before.toList_concat
  · exact fun d hd => r.declare_error_iff h.identified hr hd
  · exact fun d a r' hd => r.lookup?_declareAlias h.identified hr hd
  · intro d hd
    refine ⟨r.nodup_aliases hr d, fun a => ?_⟩
    rw [r.mem_aliases_iff h.identified hr hd]
    refine and_congr_right fun ha => ⟨?_, h.exists_of_firstGiven ha⟩
    rintro ⟨n, hn, rfl, rfl⟩
    refine h.firstGiven hn ?_
    rw [hr.folded n hn]
    exact ha

/-- A type of some name and tag. -/
def TypeDecl.issued (names : List String) (i : Nat) : TypeDecl :=
  { tag := ⟨i⟩, name := names.getD i "", autoload := false, base := none }

lemma identified_issued (names : List String) :
    Identified fun d => ∃ i, d = TypeDecl.issued names i := by
  rintro d e ⟨i, rfl⟩ ⟨j, rfl⟩ htag
  rw [Tag.mk.inj htag]

/-- Some calls, of which the third fails since its name is that of a type. -/
def TypeCall.shapes : List TypeCall :=
  let shape := TypeDecl.issued ["Shape", "Circle", "disc"]
  [.insertAlias (shape 0) "Form", .declare (shape 1), .declareAlias (shape 0) "circle",
    .declareAlias (shape 1) "Disc"]

/-- A type cannot be declared under a name that another type was given. -/
theorem type_names_consistent_shapes :
    ∃ x, (TypeCall.applyAll TypeCall.shapes).declare (.issued ["Shape", "Circle", "disc"] 2) =
      .error x := by
  have hproper : TypeCall.Proper (fun d => ∃ i, d = .issued ["Shape", "Circle", "disc"] i)
      TypeCall.shapes := by
    refine ⟨identified_issued _, ?_, ?_⟩
    · simp [TypeCall.InOrder, TypeCall.shapes, TypeCall.ofRun]
    · intro c hc
      simp only [TypeCall.shapes, List.mem_cons, List.not_mem_nil, or_false] at hc
      rcases hc with rfl | rfl | rfl | rfl <;> exact ⟨_, rfl⟩
  have htag : ((TypeCall.applyAll TypeCall.shapes).lookup? "disc").map (·.tag) = some ⟨1⟩ := by
    decide +kernel
  obtain ⟨e, he, htag⟩ := Option.map_eq_some_iff.1 htag
  obtain ⟨-, -, -, -, -, -, hdeclare, -, -⟩ := type_names_consistent hproper
  refine (hdeclare (.issued ["Shape", "Circle", "disc"] 2) ⟨2, rfl⟩).2 ⟨e, he, ?_⟩
  rintro rfl
  cases htag

end ScriptRun
