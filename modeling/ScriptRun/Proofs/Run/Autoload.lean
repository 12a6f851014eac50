import ScriptRun.Proofs.Declaration.Layers
import ScriptRun.Proofs.Run.Progress

/-!
# Asking the autoload hook

A name that belongs to no type yet may be supplied by the autoload hook, which is code like any
other: it may declare, include, resolve further names, fail or dispose of the run. What is said of a
lookup is said for all ways in which labels may be called, so whatever the hook does.

A name that belongs to a type belongs to it for good, so no hook is asked for it again.
-/

namespace ScriptRun

open Relation

variable {κ σ : Type} {s : Setting κ σ} {call : Invoke κ σ} {r r' : Run κ σ} {name : String}
  {autoload : Bool} {hook : κ} {d e : TypeDecl}

/-! ### Words that stand for types -/

/-- A name is some word, but for the case of its ASCII letters. -/
def Spells (name word : String) : Prop := name.toList.map Char.toLower = word.toList

instance (name word : String) : Decidable (Spells name word) :=
  inferInstanceAs (Decidable (_ = _))

lemma spells_iff {word : String} :
    Spells name word ↔ String.ofList (name.toList.map Char.toLower) = word := by
  constructor
  · intro h
    rw [show name.toList.map Char.toLower = word.toList from h, String.ofList_toList]
  · intro h
    rw [Spells, ← h, String.toList_ofList]

lemma TypeMention.ofName_named (hself : ¬Spells name "self") (hparent : ¬Spells name "parent")
    (hstatic : ¬Spells name "static") : ofName name = .named name := by
  rw [ofName]
  split
  case h_1 h => exact absurd (spells_iff.2 h) hself
  case h_2 h => exact absurd (spells_iff.2 h) hparent
  case h_3 h => exact absurd (spells_iff.2 h) hstatic
  case h_4 => rfl

/-! ### One question -/

/-- Looking a name up comes to asking a hook. -/
structure Asks (s : Setting κ σ) (name : String) (autoload : Bool) (r : Run κ σ) (hook : κ) :
    Prop where
  unbound : r.types.lookup? name = none
  requested : autoload = true
  installed : s.autoload = some hook
  live : r.isDisposed = false

/-- The call of a hook for a name. -/
def Invoke.askHook (call : Invoke κ σ) (hook : κ) (name : String) (r : Run κ σ) :
    Option (Outcome Value × Variables × Run κ σ) :=
  call hook (.name name) none .global (r.record (.began (.autoload name)))

/-- A result comes of one question: if that fails, so does the operation, in the same way, and
otherwise the answer is told by the types as they are then. Nothing happens before or after. -/
structure ComesOf {α : Type} (question : Option (Outcome Value × Variables × Run κ σ))
    (result : Option (Outcome α × Run κ σ)) (Answer : LayeredTypes → Outcome α → Prop) : Prop where
  unending : question = none → result = none
  answered {v : Value} {vars : Variables} {r' : Run κ σ} :
    question = some (.ok v, vars, r') → ∃ o, result = some (o, r') ∧ Answer r'.types o
  failed {x : RunError} {vars : Variables} {r' : Run κ σ} :
    question = some (.error x, vars, r') → result = some (.error x, r')
  panicked {p : Payload} {vars : Variables} {r' : Run κ σ} :
    question = some (.panic p, vars, r') → result = some (.panic p, r')

lemma comesOf_map {α : Type} {Answer : LayeredTypes → Outcome α → Prop}
    (answer : LayeredTypes → Outcome α) (h : ∀ types, Answer types (answer types))
    (question : Option (Outcome Value × Variables × Run κ σ)) :
    ComesOf question (question.map fun (o, _, r) => (o.bind fun _ => answer r.types, r))
      Answer where
  unending hq := by rw [hq]; rfl
  answered hq := by
    rw [hq]
    exact ⟨_, rfl, h _⟩
  failed hq := by rw [hq]; rfl
  panicked hq := by rw [hq]; rfl

lemma lookupType_of_asks (h : Asks s name autoload r hook) :
    Run.lookupType s call name autoload r =
      (call.askHook hook name r).map fun (o, _, r) =>
        (o.bind fun _ => .ok (r.types.lookup? name), r) := by
  obtain ⟨hunbound, rfl, hinstalled, hlive⟩ := h
  rw [Run.lookupType, hunbound, hlive, hinstalled, Invoke.askHook]
  dsimp only
  cases call hook (.name name) none .global (r.record (.began (.autoload name))) with
  | none => rfl
  | some x =>
    obtain ⟨o, vars, r'⟩ := x
    cases o <;> rfl

lemma lookupType_of_not_asks (h : ∀ hook, ¬Asks s name autoload r hook) :
    Run.lookupType s call name autoload r = some (.ok (r.types.lookup? name), r) := by
  rw [Run.lookupType]
  cases hunbound : r.types.lookup? name with
  | some d => rfl
  | none =>
    dsimp only
    split
    case isTrue => rfl
    case isFalse hasked =>
      obtain ⟨hrequested, hlive⟩ := Bool.or_eq_false_iff.1 (Bool.eq_false_iff.2 hasked)
      cases hinstalled : s.autoload with
      | none => rfl
      | some hook =>
        exact absurd ⟨hunbound, by simpa using hrequested, hinstalled, hlive⟩ (h hook)

lemma needType_ok_iff {caller : Option TypeDecl} :
    Run.needType s call name caller autoload r = some (.ok d, r') ↔
      Run.resolveType s call name caller autoload r = some (.ok (some d), r') := by
  rw [Run.needType]
  constructor
  · intro h
    obtain ⟨⟨o, r₁⟩, hres, heq⟩ := Option.map_eq_some_iff.1 h
    obtain ⟨ho, rfl⟩ := Prod.mk.inj heq
    rw [hres]
    cases o with
    | error x | panic p => cases ho
    | ok found =>
      cases found with
      | none => cases ho
      | some e =>
        cases ho
        rfl
  · intro h
    rw [h]
    rfl

/-! ### Making sure of a type -/

/-- How making sure of a type ends, told by what its name belongs to. -/
structure Ensures (d : TypeDecl) (types : LayeredTypes) (o : Outcome Unit) : Prop where
  declared : o = .ok () ↔ types.isDeclared d = true
  mismatch : o = .error (.typeMismatch d.name) ↔
    ∃ e, types.lookup? d.name = some e ∧ e.tag ≠ d.tag
  missing : o = .error (.typeNotFound d.name) ↔ types.lookup? d.name = none

/-- The answer that a type stands under its name. -/
def TypeDecl.foundAmong (d : TypeDecl) (types : LayeredTypes) : Outcome Unit :=
  match types.lookup? d.name with
  | some e => if e.tag = d.tag then .ok () else .error (.typeMismatch d.name)
  | none => .error (.typeNotFound d.name)

lemma ensures_foundAmong (d : TypeDecl) (types : LayeredTypes) :
    Ensures d types (d.foundAmong types) := by
  rw [TypeDecl.foundAmong]
  cases hlookup : types.lookup? d.name with
  | none => constructor <;> simp [LayeredTypes.isDeclared, hlookup]
  | some e =>
    by_cases htag : e.tag = d.tag
    · constructor <;> simp [LayeredTypes.isDeclared, hlookup, htag]
    · constructor <;> simp [LayeredTypes.isDeclared, hlookup, htag]

lemma ensureType_eq : Run.ensureType s call d r =
    (Run.lookupType s call d.name d.autoload r).map fun (o, r) =>
      (o.bind fun
        | some e => if e.tag = d.tag then .ok () else .error (.typeMismatch d.name)
        | none => .error (.typeNotFound d.name), r) := by
  rw [Run.ensureType]
  split
  case isFalse => rfl
  case isTrue hdeclared =>
    -- the name belongs to the type already, so it is not asked for
    cases hlookup : r.types.lookup? d.name with
    | none => simp [LayeredTypes.isDeclared, hlookup] at hdeclared
    | some e =>
      have htag : e.tag = d.tag := by simpa [LayeredTypes.isDeclared, hlookup] using hdeclared
      simp [Run.lookupType, hlookup, htag]

lemma ensureType_of_asks (h : Asks s d.name d.autoload r hook) :
    Run.ensureType s call d r =
      (call.askHook hook d.name r).map fun (o, _, r) =>
        (o.bind fun _ => d.foundAmong r.types, r) := by
  rw [ensureType_eq, lookupType_of_asks h, Option.map_map]
  congr 1
  funext ⟨o, vars, r'⟩
  cases o <;> rfl

lemma ensureType_of_not_asks (h : ∀ hook, ¬Asks s d.name d.autoload r hook) :
    Run.ensureType s call d r = some (d.foundAmong r.types, r) := by
  rw [ensureType_eq, lookupType_of_not_asks h]
  rfl

/-! ### Names for good -/

namespace TypeCatalog

variable {t t' : TypeCatalog} {a : String} {b : Bool}

lemma get?_of_bind (h : t.bind a d = .ok (b, t')) (he : t.get? name = some e) :
    t'.get? name = some e := by
  rw [bind] at h
  split at h
  case h_1 =>
    split at h
    case isTrue => cases h; exact he
    case isFalse => cases h
  case h_2 =>
    cases h
    change (t.named a d).get? name = some e
    rw [get?_named, he]
    rfl

lemma get?_of_insert (h : t.insert d = .ok (b, t')) (he : t.get? name = some e) :
    t'.get? name = some e := by
  rw [insert] at h
  split at h
  case h_1 => cases h
  case h_2 t₁ hbind =>
    have hbound : t₁.get? name = some e := get?_of_bind hbind he
    cases h
    exact hbound
  case h_3 hbind => cases h; exact get?_of_bind hbind he

lemma get?_insertAlias (he : t.get? name = some e) : (t.insertAlias d a).2.get? name = some e := by
  rw [insertAlias]
  split
  case h_1 => exact he
  case h_2 b t₁ hinsert =>
    have he₁ := get?_of_insert hinsert he
    split
    case h_1 => exact he₁
    case h_2 hbind => exact get?_of_bind hbind he₁

end TypeCatalog

namespace LayeredTypes

variable {t t' : LayeredTypes} {a : String}

lemma lookup?_of_declare (h : t.declare d = .ok t') (he : t.lookup? name = some e) :
    t'.lookup? name = some e := by
  obtain ⟨b, hinsert⟩ := flat_insert_of_ok h
  rw [lookup?_eq_get?] at he ⊢
  exact TypeCatalog.get?_of_insert hinsert he

lemma lookup?_of_declareAlias (he : t.lookup? name = some e) :
    (t.declareAlias d a).2.lookup? name = some e := by
  rcases t.declareAlias_cases d a with ⟨e', -, hsame⟩ | ⟨-, hflat⟩
  · rw [hsame]
    exact he
  · rw [lookup?_eq_get?] at he ⊢
    rw [hflat]
    exact TypeCatalog.get?_insertAlias he

end LayeredTypes

lemma Run.lookup?_declareType (he : r.types.lookup? name = some e) :
    (r.declareType d).2.types.lookup? name = some e := by
  rw [declareType]
  split
  · exact he
  · split
    case h_1 hdeclare => exact LayeredTypes.lookup?_of_declare hdeclare he
    case h_2 => exact he

lemma Run.lookup?_declareAlias {a : String} (he : r.types.lookup? name = some e) :
    (r.declareAlias d a).2.types.lookup? name = some e := by
  rw [declareAlias]
  split
  · exact he
  · exact LayeredTypes.lookup?_of_declareAlias he

lemma Change.lookup? (h : Change s r r') (he : r.types.lookup? name = some e) :
    r'.types.lookup? name = some e := by
  -- whatever does not declare types leaves them alone
  cases h with
  | world | globals | handler | note | report | began => exact he
  | declareType d => exact Run.lookup?_declareType he
  | declareAlias d further => exact Run.lookup?_declareAlias he
  | declareFunction f =>
    obtain ⟨functions, h⟩ := r.declareFunction_frame f
    rw [h]
    exact he
  | declareConstant c =>
    obtain ⟨constants, h | ⟨d, h⟩⟩ := r.declareConstant_frame s c
    · rw [h]
      exact he
    · rw [h]
      exact he
  | script u hr =>
    obtain ⟨lifecycle, h⟩ := Run.begin_frame u hr
    rw [h]
    exact he
  | markIncluded u =>
    obtain ⟨included, h⟩ := Run.mark_frame u r
    rw [Run.markIncluded, h]
    split <;> exact he
  | onShutdown code => rw [Run.onShutdown]; split <;> exact he
  | keep resource => rw [Run.keep]; split <;> exact he
  | handBack id => rw [Run.handBack]; split <;> exact he
  | track path => rw [Run.track]; split <;> exact he
  | untrack path => rw [Run.untrack]; split <;> exact he

/-- What a name belongs to it belongs to from then on. -/
lemma Moves.lookup? (h : Moves s r r') (he : r.types.lookup? name = some e) :
    r'.types.lookup? name = some e := by
  induction h with
  | refl => exact he
  | tail _ h ih =>
    cases h with
    | change h => exact h.lookup? ih
    | tearDown | callback | concluded | close => exact ih

/-! ### Type resolution -/

/-- The three words are answered without a look at the types, and without a call. Any other name is
asked for by one call of the hook where it belongs to no type, autoload is wanted, there is a hook
and the run is not disposed, and by none elsewhere; then the name has what it belongs to after that.
The same goes for making sure of a type, which ends by what the type's own name belongs to then. A
name that belongs to a type is never asked for again. -/
theorem type_resolution (s : Setting κ σ) (call : Invoke κ σ) (r : Run κ σ) :
    (∀ name caller autoload,
      (Spells name "self" →
        Run.resolveType s call name caller autoload r = some (.ok caller, r)) ∧
      (Spells name "parent" →
        Run.resolveType s call name caller autoload r = some (.ok (caller.bind (·.base)), r)) ∧
      (Spells name "static" →
        Run.resolveType s call name caller autoload r = some (.error .lateStaticBinding, r)) ∧
      (¬Spells name "self" → ¬Spells name "parent" → ¬Spells name "static" →
        ((∀ hook, ¬Asks s name autoload r hook) →
          Run.resolveType s call name caller autoload r =
            some (.ok (r.types.lookup? name), r)) ∧
        ∀ hook, Asks s name autoload r hook →
          ComesOf (call.askHook hook name r) (Run.resolveType s call name caller autoload r)
            fun types o => o = .ok (types.lookup? name)) ∧
      ∀ d r', Run.needType s call name caller autoload r = some (.ok d, r') ↔
        Run.resolveType s call name caller autoload r = some (.ok (some d), r')) ∧
    (∀ d : TypeDecl,
      ((∀ hook, ¬Asks s d.name d.autoload r hook) →
        ∃ o, Run.ensureType s call d r = some (o, r) ∧ Ensures d r.types o) ∧
      ∀ hook, Asks s d.name d.autoload r hook →
        ComesOf (call.askHook hook d.name r) (Run.ensureType s call d r) (Ensures d)) ∧
    ∀ name d r', r.types.lookup? name = some d → Moves s r r' →
      r'.types.lookup? name = some d ∧ ∀ autoload hook, ¬Asks s name autoload r' hook := by
  refine ⟨fun name caller autoload => ⟨?_, ?_, ?_, ?_, ?_⟩, fun d => ⟨?_, ?_⟩, ?_⟩
  · intro hself
    rw [Run.resolveType, TypeMention.ofName, spells_iff.1 hself]
    rfl
  · intro hparent
    rw [Run.resolveType, TypeMention.ofName, spells_iff.1 hparent]
    rfl
  · intro hstatic
    rw [Run.resolveType, TypeMention.ofName, spells_iff.1 hstatic]
    rfl
  · intro hself hparent hstatic
    rw [Run.resolveType, TypeMention.ofName_named hself hparent hstatic]
    refine ⟨lookupType_of_not_asks, fun hook hasks => ?_⟩
    dsimp only
    rw [lookupType_of_asks hasks]
    refine comesOf_map (fun types => .ok (types.lookup? name)) (fun types => ?_) _
    rfl
  · exact fun d r' => needType_ok_iff
  · intro hnone
    exact ⟨_, ensureType_of_not_asks hnone, ensures_foundAmong d r.types⟩
  · intro hook hasks
    rw [ensureType_of_asks hasks]
    exact comesOf_map d.foundAmong (ensures_foundAmong d) _
  · intro name d r' hd hmoves
    have hd' := hmoves.lookup? hd
    refine ⟨hd', fun autoload hook hasks => ?_⟩
    rw [hasks.unbound] at hd'
    cases hd'

/-! ### A hook that declares another type -/

/-- A setting whose hook declares some type of its own under any name that it is asked for. -/
def Setting.impostor : Setting Unit Nat :=
  { Setting.plain Application.empty with
    autoload := some ()
    code := fun _ input =>
      match input with
      | .name name => .ask (.declareType ⟨⟨2⟩, name, true, none⟩) fun _ => .done (.ok .null)
      | _ => .done (.ok .null) }

/-- A type that another one is declared for is not made sure of, and its name is not asked for a
second time. -/
theorem type_resolution_impostor :
    ∃ r', Run.ensureType Setting.impostor (Setting.impostor.invoke 2) ⟨⟨1⟩, "Shape", true, none⟩
        (Setting.impostor.start none 0) = some (.error (.typeMismatch "Shape"), r') ∧
      Run.resolveType Setting.impostor (Setting.impostor.invoke 0) "shape" none true r' =
        some (.ok (some ⟨⟨2⟩, "Shape", true, none⟩), r') := by
  have hasks : Asks Setting.impostor "Shape" true (Setting.impostor.start none 0) () :=
    ⟨by decide +kernel, rfl, rfl, rfl⟩
  obtain ⟨-, hensure, -⟩ := type_resolution Setting.impostor (Setting.impostor.invoke 2)
    (Setting.impostor.start none 0)
  have hcomes := (hensure ⟨⟨1⟩, "Shape", true, none⟩).2 () hasks
  obtain ⟨r', hquestion, hbound⟩ : ∃ r',
      (Setting.impostor.invoke 2).askHook () "Shape" (Setting.impostor.start none 0) =
        some (.ok .null, .global, r') ∧
      r'.types.lookup? "shape" = some ⟨⟨2⟩, "Shape", true, none⟩ := by
    refine ⟨_, rfl, ?_⟩
    rfl
  obtain ⟨o, hresult, hends⟩ := hcomes.answered hquestion
  have hlookup : r'.types.lookup? "Shape" = some ⟨⟨2⟩, "Shape", true, none⟩ := hbound
  refine ⟨r', ?_, ?_⟩
  · rw [hresult, hends.mismatch.2 ⟨_, hlookup, by decide⟩]
  · obtain ⟨hresolve, -, hlater⟩ :=
      type_resolution Setting.impostor (Setting.impostor.invoke 0) r'
    obtain ⟨-, -, -, hnamed, -⟩ := hresolve "shape" none true
    have hquiet := (hlater _ _ _ hbound .refl).2 true
    rw [(hnamed (by decide) (by decide) (by decide)).1 hquiet, hbound]

end ScriptRun
