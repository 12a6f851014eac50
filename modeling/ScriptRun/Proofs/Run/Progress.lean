import ScriptRun.Proofs.Run.Inclusion
import ScriptRun.Proofs.Declaration.Functions
import ScriptRun.Proofs.Declaration.Constants

/-!
# Progress of a run

How far a run has come is told by what it has declared and included, by its lifecycle, and by what
it has set going. `Change.progress` says once what a change makes of them: it may declare, it may
set something going, or it may begin a script, and each of these takes a run that is not disposed.
-/

namespace ScriptRun

open Relation

variable {κ σ : Type} {s : Setting κ σ} {r r' r₁ : Run κ σ}

/-! ### What is read -/

def Event.step? : Event κ → Option (Step κ)
  | .began step => some step
  | _ => none

/-- What a run has set going of its own accord. -/
abbrev stepsIn (events : List (Event κ)) : List (Step κ) := events.filterMap Event.step?

/-- All that a run has declared and included. -/
def Run.registers (r : Run κ σ) :
    LayeredFunctions κ × LayeredTypes × LayeredConstants × Included :=
  (r.functions, r.types, r.constants, r.included)

/-! ### Declarations -/

/-- A run declares functions and constants besides those that it has. -/
def Declares (r r' : Run κ σ) : Prop :=
  ∃ fs cs, r'.functions = r.functions.declareAll fs ∧ r'.constants = r.constants.declareAll cs

namespace Declares

lemma of_eq (hf : r'.functions = r.functions) (hc : r'.constants = r.constants) : Declares r r' :=
  ⟨[], [], hf, hc⟩

lemma of_registers (h : r'.registers = r.registers) : Declares r r' :=
  .of_eq (congrArg (·.1) h) (congrArg (·.2.2.1) h)

lemma trans (h : Declares r r₁) (h' : Declares r₁ r') : Declares r r' := by
  obtain ⟨fs, cs, hf, hc⟩ := h
  obtain ⟨fs', cs', hf', hc'⟩ := h'
  refine ⟨fs ++ fs', cs ++ cs', ?_, ?_⟩
  · rw [hf', hf, LayeredFunctions.declareAll_append]
  · rw [hc', hc, LayeredConstants.declareAll_append]

end Declares

namespace Run

lemma declareFunction_of_isDisposed (hr : r.isDisposed = true) (f : FunctionDecl κ) :
    r.declareFunction f = (.ok (), r) := if_pos hr

lemma declareFunction_of_ok (hr : r.isDisposed = false) {functions : LayeredFunctions κ}
    (h : r.functions.declare f = .ok functions) :
    r.declareFunction f = (.ok (), { r with functions }) := by
  rw [declareFunction, hr, h]
  rfl

lemma declareFunction_of_error (hr : r.isDisposed = false) {e : RunError}
    (h : r.functions.declare f = .error e) : r.declareFunction f = (.error e, r) := by
  rw [declareFunction, hr, h]
  rfl

lemma declareFunction_after (hr : r.isDisposed = false) (f : FunctionDecl κ) :
    (r.declareFunction f).2 = { r with functions := r.functions.after f } := by
  rw [LayeredFunctions.after]
  cases h : r.functions.declare f with
  | ok functions => rw [declareFunction_of_ok hr h]
  | error e => rw [declareFunction_of_error hr h]

lemma declareConstant_of_isDisposed (s : Setting κ σ) (hr : r.isDisposed = true) (c : Constant) :
    r.declareConstant s c = (false, r) := if_pos hr

/-- Of a constant that is declared the run is told, and the sink if another value stands. -/
lemma declareConstant_eq (s : Setting κ σ) (hr : r.isDisposed = false) (c : Constant) :
    r.declareConstant s c =
      match (r.constants.declare c).1 with
      | .new => (true, { r with constants := r.constants.after c })
      | .unchanged => (false, { r with constants := r.constants.after c })
      | .conflict existing =>
        (false, { r with constants := r.constants.after c }.report s
          (constantRedefined c.name existing)) := by
  rw [declareConstant, hr]
  rfl

/-- Declaring a constant declares it, and may be reported. -/
lemma declareConstant_after (s : Setting κ σ) (hr : r.isDisposed = false) (c : Constant) :
    (r.declareConstant s c).2 = { r with constants := r.constants.after c } ∨
      ∃ d, (r.declareConstant s c).2 = { r with constants := r.constants.after c }.report s d := by
  rw [declareConstant_eq s hr]
  cases (r.constants.declare c).1 with
  | new | unchanged => exact .inl rfl
  | conflict existing => exact .inr ⟨_, rfl⟩

end Run

/-! ### Changes -/

/-- How far a change gets a run. -/
inductive Progress (r r' : Run κ σ) : Prop
  | idle (hreg : r'.registers = r.registers) (hl : r'.lifecycle = r.lifecycle)
    (hs : stepsIn r'.events = stepsIn r.events)
  /-- Something is declared, or marked as included. -/
  | declared (hr : r.isDisposed = false) (hd : Declares r r') (hl : r'.lifecycle = r.lifecycle)
    (hs : stepsIn r'.events = stepsIn r.events)
  | aside (step : Step κ) (hstep : step.isAside = true) (hr : r.isDisposed = false)
    (hreg : r'.registers = r.registers) (hl : r'.lifecycle = r.lifecycle)
    (he : r'.events = r.events ++ [.began step])
  | script (i : Nat) (hr : r.isDisposed = false) (hd : Declares r r')
    (hl : r'.lifecycle = r.beginRunning.lifecycle)
    (he : r'.events = r.events ++ [.began (.script i)])

namespace Progress

lemma of_journal (hreg : r'.registers = r.registers) (hl : r'.lifecycle = r.lifecycle)
    (hj : r'.journal = r.journal) : Progress r r' :=
  .idle hreg hl (by rw [Run.events, hj, Run.events])

lemma refl (r : Run κ σ) : Progress r r := .of_journal rfl rfl rfl

/-- Writing into the journal what sets nothing going. -/
lemma of_record {e : Event κ} (hreg : r₁.registers = r.registers) (hl : r₁.lifecycle = r.lifecycle)
    (hj : r₁.journal = r.journal) (he : e.step? = none) : Progress r (r₁.record e) := by
  refine .idle hreg hl ?_
  rw [stepsIn, filterMap_record he, Run.events, hj, Run.events]

lemma declareFunction (f : FunctionDecl κ) (r : Run κ σ) : Progress r (r.declareFunction f).2 := by
  cases hr : r.isDisposed with
  | true =>
    rw [Run.declareFunction_of_isDisposed hr]
    exact .refl r
  | false =>
    rw [Run.declareFunction_after hr]
    exact .declared hr ⟨[f], [], rfl, rfl⟩ rfl rfl

lemma declareType (d : TypeDecl) (r : Run κ σ) : Progress r (r.declareType d).2 := by
  cases hr : r.isDisposed with
  | true =>
    rw [Run.declareType, hr]
    exact .refl r
  | false =>
    obtain ⟨types, h⟩ := r.declareType_frame d
    rw [h]
    exact .declared hr (.of_eq rfl rfl) rfl rfl

lemma declareAlias (d : TypeDecl) (further : String) (r : Run κ σ) :
    Progress r (r.declareAlias d further).2 := by
  cases hr : r.isDisposed with
  | true =>
    rw [Run.declareAlias, hr]
    exact .refl r
  | false =>
    obtain ⟨types, h⟩ := r.declareAlias_frame d further
    rw [h]
    exact .declared hr (.of_eq rfl rfl) rfl rfl

lemma declareConstant (s : Setting κ σ) (c : Constant) (r : Run κ σ) :
    Progress r (r.declareConstant s c).2 := by
  cases hr : r.isDisposed with
  | true =>
    rw [Run.declareConstant_of_isDisposed s hr]
    exact .refl r
  | false =>
    rcases Run.declareConstant_after s hr c with h | ⟨d, h⟩
    · rw [h]
      exact .declared hr ⟨[], [c], rfl, rfl⟩ rfl rfl
    · rw [h]
      refine .declared hr ⟨[], [c], rfl, rfl⟩ rfl ?_
      exact filterMap_record rfl _

lemma beginScript (u : ScriptUnit κ) (hr : r.isDisposed = false) :
    Progress r ((r.beginRunning.mark u).record (.began (.script u.index))) := by
  refine .script u.index hr ?_ ?_ ?_
  · obtain ⟨lifecycle, h⟩ := Run.begin_frame u hr
    rw [h]
    exact .of_eq rfl rfl
  · obtain ⟨included, h⟩ := Run.mark_frame u r.beginRunning
    rw [h]
    rfl
  · obtain ⟨lifecycle, h⟩ := Run.begin_frame u hr
    rw [h]
    exact Run.events_record _ _

lemma markIncluded (u : ScriptUnit κ) (r : Run κ σ) : Progress r (r.markIncluded u) := by
  cases hr : r.isDisposed with
  | true =>
    rw [Run.markIncluded, hr]
    exact .refl r
  | false =>
    rw [Run.markIncluded, hr, Run.mark_of_not_isDisposed hr]
    exact .declared hr (.of_eq rfl rfl) rfl (filterMap_record rfl _)

end Progress

/-- Each change, by how far it gets the run. -/
theorem Change.progress (h : Change s r r') : Progress r r' := by
  cases h with
  | world | globals | handler => exact .of_journal rfl rfl rfl
  | note e h =>
    refine .of_record rfl rfl rfl ?_
    cases e with
    | handled | wrote | flushed | closed => rfl
    | _ => cases h
  | report d => exact .of_record rfl rfl rfl rfl
  | declareFunction f => exact .declareFunction f r
  | declareType d => exact .declareType d r
  | declareAlias d further => exact .declareAlias d further r
  | declareConstant c => exact .declareConstant s c r
  | began step h hr => exact .aside step h hr rfl rfl (Run.events_record _ _)
  | script u hr => exact .beginScript u hr
  | markIncluded u => exact .markIncluded u r
  | onShutdown code =>
    rw [Run.onShutdown]
    split
    · exact .refl r
    · exact .of_record rfl rfl rfl rfl
  | keep resource =>
    rw [Run.keep]
    split
    · exact .refl r
    · exact .of_record rfl rfl rfl rfl
  | handBack id =>
    rw [Run.handBack]
    split
    · exact .of_record rfl rfl rfl rfl
    · exact .refl r
  | track path =>
    rw [Run.track]
    split
    · exact .refl r
    · exact .of_record rfl rfl rfl rfl
  | untrack path =>
    rw [Run.untrack]
    split
    · exact .of_record rfl rfl rfl rfl
    · exact .refl r

/-! ### Declarations of a whole run -/

lemma Progress.declares (h : Progress r r') : Declares r r' := by
  cases h with
  | idle hreg | aside _ _ _ hreg => exact .of_registers hreg
  | declared _ hd | script _ _ hd => exact hd

lemma Move.declares (h : Move s r r') : Declares r r' := by
  cases h with
  | change h => exact h.progress.declares
  | tearDown | callback | concluded | close => exact .of_registers rfl

lemma Moves.declares (h : Moves s r r') : Declares r r' := by
  induction h with
  | refl => exact .of_registers rfl
  | tail _ h ih => exact ih.trans h.declares

/-- The start of a run is made of moves as well. -/
lemma Moment.moves_blank (hr : Moment s r) : ∃ w, Moves s (Run.blank s.app w) r := by
  obtain ⟨args, w, h⟩ := hr
  have hapi : Moves s (Run.blank s.app w) ((Run.blank s.app w).declareConstant s
      ⟨"SERVER_API", .str s.options.serverApi, false⟩).2 := .single (.change (.declareConstant _))
  cases args with
  | none => exact ⟨w, hapi.trans h⟩
  | some args => exact ⟨w, .trans (hapi.tail (.change (.globals _))) h⟩

/-- Whatever a run does, its functions and constants are those of the application and what was
declared besides, one after another. -/
theorem Moment.declares (hr : Moment s r) :
    ∃ fs cs, r.functions = (LayeredFunctions.ofApp s.app.functions).declareAll fs ∧
      r.constants = (LayeredConstants.ofApp s.app.constants).declareAll cs := by
  obtain ⟨w, h⟩ := hr.moves_blank
  exact h.declares

/-! ### Plain settings -/

/-- A setting for an application, with code that does nothing in surroundings that do nothing but
count the diagnostics. -/
def Setting.plain (app : Application κ) : Setting κ Nat where
  app
  options := .standard
  host :=
    { write := fun _ w => (.ok (), w)
      flush := fun w => (.ok (), w)
      closeSession := fun w => (.ok false, w) }
  streams :=
    { read := fun _ w => (.error .notFound, w)
      remove := fun _ w => (.error .notFound, w) }
  sink := fun _ w => w + 1
  autoload := none
  code := fun _ _ => .done (.ok .null)
  search := fun _ _ _ => .done (.ok none)

end ScriptRun
