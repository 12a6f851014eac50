import ScriptRun.Proofs.Run.Watch
import ScriptRun.Proofs.Script.Catalog

/-!
# Inclusion, once

A script is marked as included before its code runs, and by nothing else but a request to mark it.
So the marks are at every moment those scripts whose execution has begun or that someone else
executes, however scripts include each other and however their execution ends; and whether a script
that is to be included once is executed can be read off the journal.

Scripts are marked by their place in the catalog, which determines them (`Declared.index_inj`).
-/

namespace ScriptRun

open Relation

variable {κ σ : Type} {s : Setting κ σ} {r r' : Run κ σ}

/-! ### Marks -/

lemma Included.mem_listed {t : ScriptCatalog κ} {i : Included} {u : ScriptUnit κ} :
    u ∈ i.listed t ↔ u ∈ t.units ∧ i.has u = true := List.mem_filter

/-- The place of the script that an event marks. -/
def Event.marks? : Event κ → Option Nat
  | .began (.script i) | .marked i => some i
  | _ => none

lemma Event.marks?_eq_some_iff {e : Event κ} {i : Nat} :
    e.marks? = some i ↔ e = .began (.script i) ∨ e = .marked i := by
  cases e with
  | began step => cases step <;> simp [marks?]
  | _ => simp [marks?]

/-- The marks are what the journal says was marked. -/
def Run.Marked (r : Run κ σ) : Prop :=
  ∀ i, i ∈ r.included.marks ↔ i ∈ r.events.filterMap Event.marks?

/-- What becomes of the marks: nothing, or one is added and stands in the journal. -/
inductive Marking (r r' : Run κ σ) : Prop
  | same (hi : r'.included = r.included)
    (he : r'.events.filterMap Event.marks? = r.events.filterMap Event.marks?)
  | added (u : ScriptUnit κ) (hi : r'.included = r.included.mark u)
    (he : r'.events.filterMap Event.marks? = r.events.filterMap Event.marks? ++ [u.index])

namespace Marking

lemma of_journal (hi : r'.included = r.included) (hj : r'.journal = r.journal) : Marking r r' := by
  refine .same hi ?_
  rw [Run.events, hj, Run.events]

/-- Writing an event that marks nothing into the journal. -/
lemma of_record {r₁ : Run κ σ} {e : Event κ} (hi : r₁.included = r.included)
    (hj : r₁.journal = r.journal) (he : e.marks? = none) : Marking r (r₁.record e) := by
  refine .same hi ?_
  rw [Run.events_record, List.filterMap_append, List.filterMap_cons_none he, List.filterMap_nil,
    List.append_nil, Run.events, hj, Run.events]

/-- Writing into the journal what a run has marked. -/
lemma of_mark {r₁ : Run κ σ} {u : ScriptUnit κ} {e : Event κ}
    (hi : r₁.included = r.included.mark u) (hj : r₁.journal = r.journal)
    (he : e.marks? = some u.index) : Marking r (r₁.record e) := by
  refine .added u hi ?_
  rw [Run.events_record, List.filterMap_append, List.filterMap_cons_some he, List.filterMap_nil,
    Run.events, hj, Run.events]

lemma marked (h : Marking r r') (hm : r.Marked) : r'.Marked := by
  intro i
  cases h with
  | same hi he =>
    rw [hi, he]
    exact hm i
  | added u hi he =>
    rw [hi, he, Included.mem_marks_mark, List.mem_append, List.mem_singleton, hm i]
    exact or_comm

lemma subset (h : Marking r r') : r.included.marks ⊆ r'.included.marks := by
  intro i hmem
  cases h with
  | same hi he => rw [hi]; exact hmem
  | added u hi he =>
    rw [hi, Included.mem_marks_mark]
    exact .inr hmem

end Marking

lemma Run.mark_of_not_isDisposed {u : ScriptUnit κ} (hr : r.isDisposed = false) :
    r.mark u = { r with included := r.included.mark u } := by
  rw [mark, hr]
  rfl

/-- A script that begins is marked, and nothing else happens but that it may be the first. -/
lemma Run.begin_frame (u : ScriptUnit κ) (hr : r.isDisposed = false) :
    ∃ lifecycle, r.beginRunning.mark u = { r with lifecycle, included := r.included.mark u } := by
  rcases r.beginRunning_frame with hb | ⟨-, hb⟩
  · rw [hb, Run.mark_of_not_isDisposed hr]
    exact ⟨_, rfl⟩
  · rw [hb, Run.mark_of_not_isDisposed rfl]
    exact ⟨_, rfl⟩

lemma Marking.script (u : ScriptUnit κ) (hr : r.isDisposed = false) :
    Marking r ((r.beginRunning.mark u).record (.began (.script u.index))) := by
  obtain ⟨lifecycle, h⟩ := Run.begin_frame u hr
  rw [h]
  exact .of_mark rfl rfl rfl

/-- A run that is disposed of takes no mark, and writes none down. -/
lemma Marking.markIncluded (u : ScriptUnit κ) (r : Run κ σ) : Marking r (r.markIncluded u) := by
  rw [Run.markIncluded]
  split
  case isTrue => exact .of_journal rfl rfl
  case isFalse hr =>
    rw [Run.mark_of_not_isDisposed (Bool.eq_false_iff.2 hr)]
    exact .of_mark rfl rfl rfl

lemma Change.marking (h : Change s r r') : Marking r r' := by
  -- all changes but two mark nothing, and write down nothing that reads as a mark
  cases h with
  | world | globals | handler => exact .of_journal rfl rfl
  | note e h =>
    refine .of_record rfl rfl ?_
    cases e with
    | handled | wrote | flushed | closed => rfl
    | _ => cases h
  | report d => exact .of_record rfl rfl rfl
  | declareFunction f =>
    obtain ⟨functions, h⟩ := r.declareFunction_frame f
    exact h ▸ .of_journal rfl rfl
  | declareType d =>
    obtain ⟨types, h⟩ := r.declareType_frame d
    exact h ▸ .of_journal rfl rfl
  | declareAlias d further =>
    obtain ⟨types, h⟩ := r.declareAlias_frame d further
    exact h ▸ .of_journal rfl rfl
  | declareConstant c =>
    obtain ⟨constants, h | ⟨d, h⟩⟩ := r.declareConstant_frame s c
    · exact h ▸ .of_journal rfl rfl
    · exact h ▸ .of_record rfl rfl rfl
  | began step h hr =>
    refine .of_record rfl rfl ?_
    cases step with
    | script => cases h
    | _ => rfl
  | script u hr => exact .script u hr
  | markIncluded u => exact .markIncluded u r
  | onShutdown code =>
    rw [Run.onShutdown]
    split
    · exact .of_journal rfl rfl
    · exact .of_record rfl rfl rfl
  | keep resource =>
    rw [Run.keep]
    split
    · exact .of_journal rfl rfl
    · exact .of_record rfl rfl rfl
  | handBack id =>
    rw [Run.handBack]
    split
    · exact .of_record rfl rfl rfl
    · exact .of_journal rfl rfl
  | track path =>
    rw [Run.track]
    split
    · exact .of_journal rfl rfl
    · exact .of_record rfl rfl rfl
  | untrack path =>
    rw [Run.untrack]
    split
    · exact .of_record rfl rfl rfl
    · exact .of_journal rfl rfl

/-- A step of teardown marks nothing when it ends, nor does the end of a teardown. -/
lemma Move.marking (h : Move s r r') : Marking r r' := by
  cases h with
  | change h => exact h.marking
  | tearDown => exact .of_journal rfl rfl
  | callback code rest => exact .of_record rfl rfl rfl
  | concluded o =>
    exact .same rfl (filterMap_settle ⟨fun _ _ => rfl, fun _ => rfl⟩ s "shutdown callback" o r)
  | close =>
    refine .same rfl (filterMap_closed_eq ⟨fun _ _ => rfl, fun _ => rfl⟩ (fun c => ?_) s r)
    cases c <;> rfl

/-- No mark is taken off. -/
lemma Moves.marks_subset (h : Moves s r r') : r.included.marks ⊆ r'.included.marks := by
  induction h with
  | refl => exact List.Subset.refl _
  | tail _ h ih => exact List.Subset.trans ih h.marking.subset

/-- Beginning a run marks nothing. -/
lemma Setting.marking_start (s : Setting κ σ) (args : Option (List String)) (w : σ) :
    Marking (Run.blank s.app w) (s.start args w) := by
  have h : Marking (Run.blank s.app w)
      ((Run.blank s.app w).declareConstant s ⟨"SERVER_API", .str s.options.serverApi, false⟩).2 :=
    Change.marking (.declareConstant _)
  cases args with
  | none => exact h
  | some args =>
    cases h with
    | same hi he => exact .same hi he
    | added u hi he => exact .added u hi he

lemma Moment.marked (hr : Moment s r) : r.Marked := by
  refine hr.induction (fun args w => (s.marking_start args w).marked ?_) fun h hm =>
    h.marking.marked hm
  exact fun _ => iff_of_false List.not_mem_nil List.not_mem_nil

/-! ### Inclusion -/

/-- The execution of a script has begun, or someone else has said to execute it. -/
def Run.Seen (r : Run κ σ) (i : Nat) : Prop :=
  .began (.script i) ∈ r.events ∨ .marked i ∈ r.events

lemma Run.seen_iff {i : Nat} : r.Seen i ↔ i ∈ r.events.filterMap Event.marks? := by
  rw [List.mem_filterMap]
  constructor
  · rintro (h | h)
    · exact ⟨_, h, rfl⟩
    · exact ⟨_, h, rfl⟩
  · rintro ⟨e, he, hi⟩
    rcases Event.marks?_eq_some_iff.1 hi with rfl | rfl
    · exact .inl he
    · exact .inr he

lemma Moment.has_iff (hr : Moment s r) (u : ScriptUnit κ) :
    r.included.has u = true ↔ r.Seen u.index := by
  rw [Run.seen_iff, ← hr.marked u.index]
  exact List.contains_iff_mem

section Include

variable {call : Invoke κ σ} {fuel : Nat} {q : Request} {vars : Variables} {u : ScriptUnit κ}
  {r₁ : Run κ σ}

/-- A script that is to be included once and is marked is not executed. -/
lemma includeScript_of_has (hd : r.isDisposed = false) (hq : q.once = true)
    (hres : Run.resolveScript s fuel q.path q.dir r = some (.ok (some u), r₁))
    (hu : r.included.has u = true) :
    Run.includeScript s call fuel q vars r = some (.ok (.bool true), vars, r₁) := by
  obtain ⟨w, rfl⟩ := resolveScript_world hres
  rw [Run.includeScript, hd, hres]
  simp only [Bool.false_eq_true, if_false, hq, hu, Bool.and_self, if_true]

/-- A script that is not to be included once, or is not marked, is executed. -/
lemma includeScript_eq_execute (hd : r.isDisposed = false)
    (hres : Run.resolveScript s fuel q.path q.dir r = some (.ok (some u), r₁))
    (hu : q.once = false ∨ r.included.has u = false) :
    Run.includeScript s call fuel q vars r = Run.execute call u q vars r₁ := by
  obtain ⟨w, rfl⟩ := resolveScript_world hres
  have hskip : (q.once && r.included.has u) = false := by
    rcases hu with hu | hu
    · rw [hu, Bool.false_and]
    · rw [hu, Bool.and_false]
  rw [Run.includeScript, hd, hres]
  simp only [Bool.false_eq_true, if_false, hskip]

/-- The run that a script is executed on. -/
def Run.entered (u : ScriptUnit κ) (r : Run κ σ) : Run κ σ :=
  (r.beginRunning.mark u).record (.began (.script u.index))

/-- A script is marked on the run that it is executed on, and nothing else is. -/
lemma entered_spec (s : Setting κ σ) (u : ScriptUnit κ) (hd : r.isDisposed = false) :
    Moves s r (r.entered u) ∧ (r.entered u).included.has u = true ∧
      (r.entered u).events = r.events ++ [.began (.script u.index)] ∧
      (r.entered u).handler = r.handler := by
  refine ⟨.single (.change (.script u hd)), ?_⟩
  obtain ⟨lifecycle, hbegin⟩ := Run.begin_frame u hd
  rw [Run.entered, hbegin]
  exact ⟨List.contains_iff_mem.2 ((Included.mem_marks_mark _ _ _).2 (.inl rfl)),
    Run.events_record _ _, rfl⟩

lemma includeScript_executes (hd : r.isDisposed = false)
    (hres : Run.resolveScript s fuel q.path q.dir r = some (.ok (some u), r₁))
    (hu : q.once = false ∨ r.included.has u = false) :
    ∃ r₂, Moves s r r₂ ∧ r₂.included.has u = true ∧
      r₂.events = r.events ++ [.began (.script u.index)] ∧
      Run.includeScript s call fuel q vars r =
        call u.body .none (some { unit := u, this := q.this, selfType := q.selfType }) vars r₂ := by
  rw [includeScript_eq_execute hd hres hu]
  obtain ⟨w, rfl⟩ := resolveScript_world hres
  obtain ⟨hmoves, hmarked, hevents, -⟩ := entered_spec (r := { r with world := w }) s u hd
  exact ⟨_, .head (.change (.world w)) hmoves, hmarked, hevents, rfl⟩

end Include

/-- All code, however deep it is called, asks for its operations at moments of the run. At every
moment the marks are the scripts whose execution has begun or that someone else executes; none is
ever taken off, and the scripts that have been included are listed by them. A request to include a
script once executes it exactly if it is not marked at that moment. -/
theorem inclusion_exactly_once (ht : s.app.scripts.Declared) :
    (∀ r, Moment s r → ∀ depth (g : Guest κ σ) context vars,
      g.execWatched (Moment s) s (s.invokeWatched (Moment s) depth) depth context vars r =
        g.exec s (s.invoke depth) depth context vars r) ∧
    (∀ u ∈ s.app.scripts.units, ∀ v ∈ s.app.scripts.units, u.index = v.index → u = v) ∧
    (∀ r, Moment s r → ∀ u : ScriptUnit κ, r.included.has u = true ↔ r.Seen u.index) ∧
    (∀ r r', Moves s r r' → ∀ u : ScriptUnit κ,
      r.included.has u = true → r'.included.has u = true) ∧
    (∀ r, Moment s r → ∀ u : ScriptUnit κ, r.isNew u = true ↔ ¬ r.Seen u.index) ∧
    (∀ r, Moment s r →
      (∀ u, u ∈ r.included.listed s.app.scripts ↔ u ∈ s.app.scripts.units ∧ r.Seen u.index) ∧
      (r.included.listed s.app.scripts).Sublist s.app.scripts.units ∧
      (r.included.listed s.app.scripts).Nodup) ∧
    ∀ (call : Invoke κ σ) (fuel : Nat) (q : Request) (vars : Variables) (r r₁ : Run κ σ)
      (u : ScriptUnit κ),
      Moment s r → r.isDisposed = false →
      Run.resolveScript s fuel q.path q.dir r = some (.ok (some u), r₁) →
        (q.once = true → r.Seen u.index → r₁.events = r.events ∧
          Run.includeScript s call fuel q vars r = some (.ok (.bool true), vars, r₁)) ∧
        (q.once = false ∨ ¬ r.Seen u.index → ∃ r₂, Moment s r₂ ∧ r₂.included.has u = true ∧
          r₂.events = r.events ++ [.began (.script u.index)] ∧
          Run.includeScript s call fuel q vars r =
            call u.body .none (some { unit := u, this := q.this, selfType := q.selfType }) vars
              r₂) := by
  refine ⟨fun r hr => hr.watched, fun u hu v hv => ht.index_inj hu hv, fun r hr => hr.has_iff, ?_,
    ?_, ?_, ?_⟩
  · intro r r' h u hu
    exact List.contains_iff_mem.2 (h.marks_subset (List.contains_iff_mem.1 hu))
  · intro r hr u
    rw [Run.isNew, Bool.not_eq_true', Bool.eq_false_iff, Ne, hr.has_iff]
  · intro r hr
    refine ⟨fun u => ?_, List.filter_sublist, ?_⟩
    · rw [Included.mem_listed, hr.has_iff]
    · exact ht.nodup.sublist List.filter_sublist
  · intro call fuel q vars r r₁ u hr hd hres
    refine ⟨fun hq hu => ?_, fun hu => ?_⟩
    · refine ⟨?_, includeScript_of_has hd hq hres ((hr.has_iff u).2 hu)⟩
      obtain ⟨w, rfl⟩ := resolveScript_world hres
      rfl
    · rw [← hr.has_iff, Bool.not_eq_true] at hu
      obtain ⟨r₂, hmoves, h⟩ := includeScript_executes hd hres hu
      exact ⟨r₂, hr.later hmoves, h⟩

/-! ### Scripts that include each other -/

/-- A script that includes itself and another one, which includes the first; all inclusions are
once, and the second script fails. -/
def Setting.mutual : Setting Bool Nat where
  app := { Application.empty with scripts := ⟨[⟨0, "a", true⟩, ⟨1, "b", false⟩]⟩ }
  options := .standard
  host :=
    { write := fun _ w => (.ok (), w)
      flush := fun w => (.ok (), w)
      closeSession := fun w => (.ok false, w) }
  streams :=
    { read := fun _ w => (.error .notFound, w)
      remove := fun _ w => (.error .notFound, w) }
  sink := fun _ w => w + 1
  autoload := none
  code := fun first _ =>
    if first then
      .ask (.includeGlobal "a" true true) fun _ => .ask (.includeGlobal "b" true true) fun _ =>
        .done (.ok .null)
    else .ask (.includeGlobal "/a" true true) fun _ => .done (.error (.script "b failed"))
  search := fun _ _ _ => .done (.ok none)

lemma declared_mutual : Setting.mutual.app.scripts.Declared := by
  have hfirst : ScriptCatalog.empty.declare "a" true = .ok (⟨0, "a", true⟩, ⟨[⟨0, "a", true⟩]⟩) :=
    rfl
  have hsecond : ScriptCatalog.declare ⟨[⟨0, "a", true⟩]⟩ "b" false =
      .ok (⟨1, "b", false⟩, Setting.mutual.app.scripts) := rfl
  exact .declare (.declare .empty hfirst) hsecond

/-- The script is executed the first time. -/
theorem inclusion_exactly_once_mutual :
    ∃ r₂, Moment Setting.mutual r₂ ∧ r₂.included.has (⟨0, "a", true⟩ : ScriptUnit Bool) = true ∧
      r₂.events = (Setting.mutual.start none 0).events ++ [.began (.script 0)] ∧
      Run.includeScript Setting.mutual (Setting.mutual.invoke 3) 3
          { Request.of "a" with once := true } .global (Setting.mutual.start none 0) =
        Setting.mutual.invoke 3 true .none (some ⟨⟨0, "a", true⟩, none, none⟩) .global r₂ := by
  have hstart : Moment Setting.mutual (Setting.mutual.start none 0) := ⟨none, 0, .refl⟩
  have hres : Run.resolveScript Setting.mutual 3 "a" none (Setting.mutual.start none 0) =
      some (.ok (some ⟨0, "a", true⟩), Setting.mutual.start none 0) := rfl
  obtain ⟨-, -, -, -, -, -, honce⟩ := inclusion_exactly_once declared_mutual
  refine (honce (Setting.mutual.invoke 3) 3 { Request.of "a" with once := true } .global _ _ _
    hstart rfl hres).2 (.inr ?_)
  rintro (h | h) <;> cases h

example :
    (Setting.mutual.run 4 (.ask (.includeGlobal "a" true true) .done)
        (Setting.mutual.start none 0)).map (·.2.events) =
      some [.began (.script 0), .began (.script 1)] :=
  rfl

end ScriptRun
