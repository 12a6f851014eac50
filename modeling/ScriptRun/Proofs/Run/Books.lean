import ScriptRun.Proofs.Run.Change

/-!
# The books of a run

What a run has to release or delete in the end stands in its books: the callbacks, the resources
with the number of the next one, and the temporary files. Of all changes only five touch them, and
each of these leaves its event in the journal. `Change.bookkeeping` tells them apart once, so that
statements about the books have five cases and not one for each kind of change.
-/

namespace ScriptRun

variable {κ σ : Type} {s : Setting κ σ} {r r' r₁ : Run κ σ}

/-! ### Changes that leave the books alone -/

/-- What a run has to release or delete in the end. -/
def Run.books (r : Run κ σ) : List κ × List (Nat × Resource σ) × Nat × List String :=
  (r.callbacks, r.resources, r.nextResource, r.temporaries)

/-- Nothing happened to the books, and nothing to the lifecycle but that a script may have been the
first. -/
structure Quiet (r r' : Run κ σ) : Prop where
  books : r'.books = r.books
  lifecycle : r'.lifecycle = r.lifecycle ∨ r.lifecycle = .created ∧ r'.lifecycle = .running
  events : ∃ ev, r'.events = r.events ++ ev ∧ ∀ e ∈ ev, e.ofBooks = false

namespace Quiet

lemma of_eq (hb : r'.books = r.books) (hl : r'.lifecycle = r.lifecycle)
    (hj : r'.journal = r.journal) : Quiet r r' :=
  ⟨hb, .inl hl, [], by simp [Run.events, hj]⟩

lemma callbacks (h : Quiet r r') : r'.callbacks = r.callbacks := congrArg (·.1) h.books

lemma resources (h : Quiet r r') : r'.resources = r.resources := congrArg (·.2.1) h.books

lemma nextResource (h : Quiet r r') : r'.nextResource = r.nextResource :=
  congrArg (·.2.2.1) h.books

lemma temporaries (h : Quiet r r') : r'.temporaries = r.temporaries :=
  congrArg (·.2.2.2) h.books

/-- Writing an event that does not concern the books into the journal. -/
lemma record (h : Quiet r r₁) {e : Event κ} (he : e.ofBooks = false) : Quiet r (r₁.record e) := by
  obtain ⟨ev, hev, hidle⟩ := h.events
  refine ⟨h.books, h.lifecycle, ev ++ [e], ?_, ?_⟩
  · rw [Run.events_record, hev, List.append_assoc]
  · intro e' he'
    rcases List.mem_append.1 he' with he' | he'
    · exact hidle e' he'
    · exact List.mem_singleton.1 he' ▸ he

end Quiet

/-! ### The five that do not -/

/-- What a change makes of the books. -/
inductive Bookkeeping (r : Run κ σ) : Run κ σ → Prop
  | quiet {r' : Run κ σ} (h : Quiet r r') : Bookkeeping r r'
  | queued (code : κ) (hr : r.isDisposed = false) :
    Bookkeeping r ({ r with callbacks := r.callbacks ++ [code] }.record (.queued code))
  | kept (resource : Resource σ) (hr : r.isDisposed = false) :
    Bookkeeping r
      ({ r with
        resources := r.resources ++ [(r.nextResource, resource)]
        nextResource := r.nextResource + 1 }.record (.kept r.nextResource))
  | handedBack (id : Nat) (h : id ∈ r.resources.map (·.1)) :
    Bookkeeping r
      ({ r with resources := r.resources.filter (·.1 != id) }.record (.handedBack id))
  | tracked (path : String) (hr : r.isDisposed = false) (h : r.isTemporary path = false) :
    Bookkeeping r ({ r with temporaries := r.temporaries ++ [path] }.record (.tracked path))
  | untracked (path : String) (h : r.isTemporary path = true) :
    Bookkeeping r
      ({ r with temporaries := r.temporaries.filter fun p => !Path.samePath path p }.record
        (.untracked path))

/-! What each operation touches. -/

namespace Run

lemma declareFunction_frame (f : FunctionDecl κ) (r : Run κ σ) :
    ∃ functions, (r.declareFunction f).2 = { r with functions } := by
  rw [declareFunction]
  split
  · exact ⟨_, rfl⟩
  · split <;> exact ⟨_, rfl⟩

lemma declareType_frame (d : TypeDecl) (r : Run κ σ) :
    ∃ types, (r.declareType d).2 = { r with types } := by
  rw [declareType]
  split
  · exact ⟨_, rfl⟩
  · split <;> exact ⟨_, rfl⟩

lemma declareAlias_frame (d : TypeDecl) (further : String) (r : Run κ σ) :
    ∃ types, (r.declareAlias d further).2 = { r with types } := by
  rw [declareAlias]
  split <;> exact ⟨_, rfl⟩

/-- A constant may be declared again, which is reported. -/
lemma declareConstant_frame (s : Setting κ σ) (c : Constant) (r : Run κ σ) :
    ∃ constants, (r.declareConstant s c).2 = { r with constants } ∨
      ∃ d, (r.declareConstant s c).2 = { r with constants }.report s d := by
  rw [declareConstant]
  split
  · exact ⟨_, .inl rfl⟩
  · rcases r.constants.declare c with ⟨result, constants⟩
    refine ⟨constants, ?_⟩
    cases result with
    | new => exact .inl rfl
    | unchanged => exact .inl rfl
    | conflict existing => exact .inr ⟨_, rfl⟩

lemma mark_frame (u : ScriptUnit κ) (r : Run κ σ) :
    ∃ included, r.mark u = { r with included } := by
  rw [mark]
  split <;> exact ⟨_, rfl⟩

lemma beginRunning_frame (r : Run κ σ) :
    r.beginRunning = r ∨
      r.lifecycle = .created ∧ r.beginRunning = { r with lifecycle := .running } := by
  rw [beginRunning]
  cases h : r.lifecycle with
  | created => exact .inr ⟨rfl, rfl⟩
  | _ => exact .inl rfl

end Run

lemma Event.ofBooks_of_isNote {e : Event κ} (h : e.isNote = true) : e.ofBooks = false := by
  cases e with
  | handled | wrote | flushed | closed => rfl
  | _ => cases h

lemma Event.ofBooks_began {step : Step κ} (h : step.isAside = true) :
    (Event.began step).ofBooks = false := by
  cases step with
  | autoload | write | read => rfl
  | _ => cases h

lemma Quiet.report (s : Setting κ σ) (h : Quiet r r₁) (d : Diagnostic) :
    Quiet r (r₁.report s d) := by
  have hw : Quiet r { r₁ with world := s.sink d r₁.world } := ⟨h.books, h.lifecycle, h.events⟩
  exact hw.record rfl

lemma Quiet.declareConstant (s : Setting κ σ) (c : Constant) (r : Run κ σ) :
    Quiet r (r.declareConstant s c).2 := by
  obtain ⟨constants, h | ⟨d, h⟩⟩ := Run.declareConstant_frame s c r
  · rw [h]
    exact .of_eq rfl rfl rfl
  · rw [h]
    have hc : Quiet r { r with constants } := .of_eq rfl rfl rfl
    exact hc.report s d

/-- Setting a script going leaves the books alone. -/
lemma Quiet.script (u : ScriptUnit κ) (r : Run κ σ) : Quiet r (r.beginRunning.mark u) := by
  obtain ⟨included, h⟩ := Run.mark_frame u r.beginRunning
  rw [h]
  rcases Run.beginRunning_frame r with hb | ⟨hl, hb⟩
  · rw [hb]
    exact .of_eq rfl rfl rfl
  · rw [hb]
    exact ⟨rfl, .inr ⟨hl, rfl⟩, [], by simp [Run.events]⟩

/-- Marking a script as included leaves the books alone. -/
lemma Quiet.markIncluded (u : ScriptUnit κ) (r : Run κ σ) : Quiet r (r.markIncluded u) := by
  rw [Run.markIncluded]
  split
  · exact .of_eq rfl rfl rfl
  · obtain ⟨included, h⟩ := Run.mark_frame u r
    rw [h]
    have hm : Quiet r { r with included } := .of_eq rfl rfl rfl
    exact hm.record rfl

/-! Each change, by its kind. -/

lemma Bookkeeping.refl (r : Run κ σ) : Bookkeeping r r := .quiet (.of_eq rfl rfl rfl)

lemma Bookkeeping.onShutdown (code : κ) (r : Run κ σ) : Bookkeeping r (r.onShutdown code) := by
  rw [Run.onShutdown]
  split
  case isTrue => exact .refl r
  case isFalse h => exact .queued code (Bool.eq_false_iff.2 h)

lemma Bookkeeping.keep (resource : Resource σ) (r : Run κ σ) :
    Bookkeeping r (r.keep resource).2 := by
  rw [Run.keep]
  split
  case isTrue => exact .refl r
  case isFalse h => exact .kept resource (Bool.eq_false_iff.2 h)

lemma Bookkeeping.handBack (id : Nat) (r : Run κ σ) : Bookkeeping r (r.handBack id).2 := by
  rw [Run.handBack]
  split
  case h_1 i resource h =>
    refine .handedBack id (List.mem_map.2 ⟨_, List.mem_of_find?_eq_some h, ?_⟩)
    simpa using List.find?_some h
  case h_2 => exact .refl r

lemma Bookkeeping.track (path : String) (r : Run κ σ) : Bookkeeping r (r.track path).2 := by
  rw [Run.track]
  split
  case isTrue => exact .refl r
  case isFalse h =>
    obtain ⟨hd, ht⟩ := Bool.or_eq_false_iff.1 (Bool.eq_false_iff.2 h)
    exact .tracked path hd ht

lemma Bookkeeping.untrack (path : String) (r : Run κ σ) : Bookkeeping r (r.untrack path).2 := by
  rw [Run.untrack]
  split
  case isTrue h => exact .untracked path h
  case isFalse => exact .refl r

/-- A change leaves the books alone or is one of the five that write into them. -/
theorem Change.bookkeeping (h : Change s r r') : Bookkeeping r r' := by
  have same {r' : Run κ σ} (hb : r'.books = r.books) (hl : r'.lifecycle = r.lifecycle)
      (hj : r'.journal = r.journal) : Bookkeeping r r' := .quiet (.of_eq hb hl hj)
  have self : Quiet r r := .of_eq rfl rfl rfl
  cases h with
  | world w => exact same rfl rfl rfl
  | globals b => exact same rfl rfl rfl
  | handler h => exact same rfl rfl rfl
  | note e h => exact .quiet (self.record (Event.ofBooks_of_isNote h))
  | report d => exact .quiet (self.report s d)
  | declareFunction f =>
    obtain ⟨functions, h⟩ := r.declareFunction_frame f
    exact h ▸ same rfl rfl rfl
  | declareType d =>
    obtain ⟨types, h⟩ := r.declareType_frame d
    exact h ▸ same rfl rfl rfl
  | declareAlias d further =>
    obtain ⟨types, h⟩ := r.declareAlias_frame d further
    exact h ▸ same rfl rfl rfl
  | declareConstant c => exact .quiet (.declareConstant s c r)
  | began step h hr => exact .quiet (self.record (Event.ofBooks_began h))
  | script u hr => exact .quiet ((Quiet.script u r).record rfl)
  | markIncluded u => exact .quiet (.markIncluded u r)
  | onShutdown code => exact .onShutdown code r
  | keep resource => exact .keep resource r
  | handBack id => exact .handBack id r
  | track path => exact .track path r
  | untrack path => exact .untrack path r

end ScriptRun
