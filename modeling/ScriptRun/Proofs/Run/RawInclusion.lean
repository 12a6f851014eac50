import ScriptRun.Proofs.Run.Progress

/-!
# Paths that lead to no script

The inclusion of a path that leads to no script touches nothing that the run owns. It tries the path
as a raw file, once. What can be read is written, once and as it is, and not reported; what cannot
be read is reported, once and under the path, and nothing is written. No code is called.
-/

namespace ScriptRun

variable {κ σ : Type} {s : Setting κ σ} {fuel : Nat} {q : Request} {r r₁ : Run κ σ}

/-! ### What is kept -/

/-- All that a run owns is as it was: only its surroundings and its journal may differ. -/
def Run.Untouched (r r' : Run κ σ) : Prop :=
  r' = { r with world := r'.world, journal := r'.journal }

/-! ### Where a path leads nowhere -/

/-- Some handler is asked for the path: it has a scheme that a handler is set for. -/
def Setting.AsksHandler (s : Setting κ σ) (path : String) : Prop :=
  ∃ scheme rest handler, Path.cutScheme? path = some (scheme, rest) ∧
    s.app.handler? scheme = some handler

/-- A path with a scheme that no handler is set for leads nowhere. -/
lemma resolveScript_of_unknown {path scheme rest : String} {dir : Option String}
    (hcut : Path.cutScheme? path = some (scheme, rest)) (hscheme : s.app.handler? scheme = none) :
    Run.resolveScript s fuel path dir r = some (.ok none, r) := by
  cases fuel <;> simp [Run.resolveScript, hcut, hscheme]

/-- Only a handler gets to see the surroundings of the run. -/
lemma resolveScript_alone {path : String} {dir : Option String} {found : Found κ}
    (hasks : ¬s.AsksHandler path)
    (h : Run.resolveScript s fuel path dir r = some (found, r₁)) : r₁ = r := by
  cases hcut : Path.cutScheme? path with
  | none => cases fuel <;> simp_all [Run.resolveScript]
  | some cut =>
    obtain ⟨scheme, rest⟩ := cut
    cases hscheme : s.app.handler? scheme with
    | some handler => exact absurd ⟨scheme, rest, handler, hcut, hscheme⟩ hasks
    | none =>
      rw [resolveScript_of_unknown hcut hscheme] at h
      cases h
      rfl

/-! ### The raw file -/

/-- The diagnostic about an inclusion that leads nowhere. -/
def Request.complaint (q : Request) : Diagnostic :=
  if q.require then (RunError.scriptNotFound q.path).toDiagnostic.withFile q.path
  else Run.inclusionFailed q.path

/-- The result of an inclusion that leads nowhere. -/
def Request.refusal (q : Request) : Outcome Value :=
  if q.require then .error (.scriptNotFound q.path) else .ok (.bool false)

section Raw

variable {data : Bytes} {e : FileError} {p : Payload} {w : σ}

lemma includeRaw_of_ok
    (h : s.streams.read (s.resolver.rawPath q.path q.dir) r.world = (.ok data, w)) :
    r.includeRaw s q = ((s.host.write data w).1.map fun _ => .null,
      ({ r with world := (s.host.write data w).2 }.record
        (.began (.read (s.resolver.rawPath q.path q.dir)))).record (.began (.write data))) := by
  rw [Run.includeRaw, Run.readRaw, h]
  rfl

lemma includeRaw_of_error
    (h : s.streams.read (s.resolver.rawPath q.path q.dir) r.world = (.error e, w)) :
    r.includeRaw s q = (q.refusal, ({ r with world := w }.record
      (.began (.read (s.resolver.rawPath q.path q.dir)))).report s q.complaint) := by
  rw [Run.includeRaw, Run.readRaw, h, Request.refusal, Request.complaint]
  cases q.require <;> rfl

lemma includeRaw_of_panic
    (h : s.streams.read (s.resolver.rawPath q.path q.dir) r.world = (.panic p, w)) :
    r.includeRaw s q = (.panic p, { r with world := w }.record
      (.began (.read (s.resolver.rawPath q.path q.dir)))) := by
  rw [Run.includeRaw, Run.readRaw, h]

end Raw

lemma untouched_includeRaw (s : Setting κ σ) (q : Request) (w : σ) (r : Run κ σ) :
    r.Untouched (Run.includeRaw s q { r with world := w }).2 := by
  cases hread : s.streams.read (s.resolver.rawPath q.path q.dir) w with
  | mk file w' =>
    cases file with
    | ok data =>
      rw [includeRaw_of_ok (r := { r with world := w }) hread]
      rfl
    | error e =>
      rw [includeRaw_of_error (r := { r with world := w }) hread]
      rfl
    | panic p =>
      rw [includeRaw_of_panic (r := { r with world := w }) hread]
      rfl

lemma includeScript_of_nowhere (hd : r.isDisposed = false)
    (hres : Run.resolveScript s fuel q.path q.dir r = some (.ok none, r₁)) (call : Invoke κ σ)
    (vars : Variables) :
    Run.includeScript s call fuel q vars r =
      some ((r₁.includeRaw s q).1, vars, (r₁.includeRaw s q).2) := by
  rw [Run.includeScript, hd, hres]
  rfl

/-- A request for a path that leads to no script. Only a handler that is asked for the path may do
something before the path is tried as a raw file, and that to the surroundings only. -/
theorem nowhere_leaves_run_alone (hd : r.isDisposed = false)
    (hres : Run.resolveScript s fuel q.path q.dir r = some (.ok none, r₁)) (vars : Variables) :
    ∃ o r', (∀ call, Run.includeScript s call fuel q vars r = some (o, vars, r')) ∧
      r.Untouched r' ∧
      (s.AsksHandler q.path ∨ r₁ = r) ∧
      let path := s.resolver.rawPath q.path q.dir
      (∀ data w, s.streams.read path r₁.world = (.ok data, w) →
        o = (s.host.write data w).1.map (fun _ => .null) ∧
        r'.world = (s.host.write data w).2 ∧
        r'.events = r.events ++ [.began (.read path), .began (.write data)]) ∧
      (∀ e w, s.streams.read path r₁.world = (.error e, w) →
        ∃ d : Diagnostic, d.file = q.path ∧
          r'.world = s.sink d w ∧
          r'.events = r.events ++ [.began (.read path), .reported d] ∧
          (q.require = true → o = .error (.scriptNotFound q.path) ∧ d.level = .error ∧
            d.code = "HR0010" ∧ d.message = "Failed opening required '" ++ q.path ++ "'") ∧
          (q.require = false → o = .ok (.bool false) ∧ d.level = .warning ∧
            d.code = "HW0002" ∧ d.message = "Failed opening '" ++ q.path ++ "' for inclusion")) ∧
      ∀ p w, s.streams.read path r₁.world = (.panic p, w) →
        o = .panic p ∧ r'.world = w ∧ r'.events = r.events ++ [.began (.read path)] := by
  obtain ⟨w₁, rfl⟩ := resolveScript_world hres
  refine ⟨_, _, fun call => includeScript_of_nowhere hd hres call vars, ?_, ?_, ?_, ?_, ?_⟩
  · exact untouched_includeRaw s q w₁ r
  · by_cases hasks : s.AsksHandler q.path
    · exact .inl hasks
    · exact .inr (resolveScript_alone hasks hres)
  · intro data w hread
    rw [includeRaw_of_ok hread]
    exact ⟨rfl, rfl, by simp [Run.events, Run.record]⟩
  · intro e w hread
    rw [includeRaw_of_error hread]
    refine ⟨q.complaint, ?_, rfl, by simp [Run.events, Run.record, Run.report], ?_, ?_⟩
    · rw [Request.complaint]
      split <;> rfl
    · intro hrequire
      rw [Request.complaint, Request.refusal, if_pos hrequire, if_pos hrequire]
      exact ⟨rfl, rfl, rfl, rfl⟩
    · intro hrequire
      rw [Request.complaint, Request.refusal, hrequire]
      exact ⟨rfl, rfl, rfl, rfl⟩
  · intro p w hread
    rw [includeRaw_of_panic hread]
    exact ⟨rfl, rfl, Run.events_record _ _⟩

/-! ### A page and a scheme that nobody knows -/

/-- A setting without scripts, with one raw file. -/
def Setting.onePage : Setting Unit Nat :=
  let plain : Setting Unit Nat := .plain Application.empty
  { plain with
    streams :=
      { plain.streams with
        read := fun path w =>
          if path = "/page" then (.ok [104, 105], w) else (.error .notFound, w) } }

/-- The page is written and not reported; a required path of an unknown scheme is reported and not
written. Neither inclusion is the beginning of the run. -/
theorem nowhere_leaves_run_alone_page :
    (∃ r', (∀ call, Run.includeScript Setting.onePage call 0 (.of "page") .global
          (Setting.onePage.start none 0) = some (.ok .null, .global, r')) ∧
        r'.lifecycle = .created ∧
        r'.events = [.began (.read "/page"), .began (.write [104, 105])]) ∧
    ∃ r' d, (∀ call, Run.includeScript Setting.onePage call 0
          { Request.of "res://page" with require := true } .global (Setting.onePage.start none 0) =
        some (.error (.scriptNotFound "res://page"), .global, r')) ∧
      r'.lifecycle = .created ∧
      r'.events = [.began (.read "/res://page"), .reported d] ∧ d.code = "HR0010" := by
  constructor
  · have hnowhere : Run.resolveScript Setting.onePage 0 "page" none (Setting.onePage.start none 0) =
        some (.ok none, Setting.onePage.start none 0) := by rfl
    obtain ⟨o, r', hinclude, huntouched, -, hwritten, -, -⟩ :=
      nowhere_leaves_run_alone (q := .of "page") rfl hnowhere .global
    obtain ⟨rfl, -, hevents⟩ := hwritten [104, 105] 0 (by rfl)
    refine ⟨r', hinclude, ?_, hevents⟩
    rw [huntouched]
    rfl
  · have hnowhere : Run.resolveScript Setting.onePage 0 "res://page" none
        (Setting.onePage.start none 0) = some (.ok none, Setting.onePage.start none 0) := by rfl
    obtain ⟨o, r', hinclude, huntouched, -, -, hreported, -⟩ :=
      nowhere_leaves_run_alone (q := { Request.of "res://page" with require := true }) rfl hnowhere
        .global
    obtain ⟨d, -, -, hevents, hrequired, -⟩ := hreported .notFound 0 (by rfl)
    obtain ⟨rfl, -, hcode, -⟩ := hrequired rfl
    refine ⟨r', d, hinclude, ?_, hevents, hcode⟩
    rw [huntouched]
    rfl

end ScriptRun
