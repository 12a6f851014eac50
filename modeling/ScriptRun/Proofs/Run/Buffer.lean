import ScriptRun.Proofs.Run.Balance
import ScriptRun.Proofs.Run.Tale
import ScriptRun.Proofs.Run.Writing
import ScriptRun.Proofs.World.HostCalls

/-!
# A run on a host in memory

The host of a run may be one in memory, that others use as well: the sink, the streams, the handlers
of schemes, code that changes the world by itself and resources that are released. They use it by
calls, and their calls are on record. Then every single step of a run is a number of calls on the
host, and the output among those of the run is what the step should write (`Buffer.paces`).
-/

namespace ScriptRun

variable {κ σ : Type} {s : Setting κ σ} {r r' r₁ : Run κ σ} {o : Option (Op κ σ)}

/-! ### Calls on the host -/

/-- A host in memory that is kept in the world, and the record of the calls that others than the run
have made on it. -/
structure Buffer (σ : Type) where
  host : σ → MemoryHost
  noted : σ → List HostCall

namespace Buffer

/-- Calls in their order, whoever has made them. -/
def merged (cs : List (HostCall ⊕ HostCall)) : List HostCall := cs.map (Sum.elim id id)

/-- The output of the calls that the run has made. -/
def own (cs : List (HostCall ⊕ HostCall)) : Bytes :=
  (cs.filterMap Sum.getLeft?).flatMap HostCall.output

/-- On the way from one world to another these calls have been made on the host, in this order: on
the left those of the run, on the right those of others, which are on record. Nothing else has
happened to the host. -/
structure Calls (b : Buffer σ) (cs : List (HostCall ⊕ HostCall)) (w w' : σ) : Prop where
  host : b.host w' = (b.host w).after (merged cs)
  noted : b.noted w' = b.noted w ++ cs.filterMap Sum.getRight?

/-- Others have used the host by calls, if at all. -/
def Uses (b : Buffer σ) (w w' : σ) : Prop :=
  ∃ cs : List HostCall, b.Calls (cs.map .inr) w w'

/-- To release the resource is to use the host by calls, if at all. -/
def Admits (b : Buffer σ) (resource : Resource σ) : Prop :=
  ∀ w, b.Uses w (resource.dispose w).2

/-- So does the handler of a scheme in its search. -/
def Guides (b : Buffer σ) : Search κ σ → Prop
  | .done _ => True
  | .look next => ∀ r, b.Guides (next r)
  | .act f next => (∀ w, b.Uses w (f w)) ∧ b.Guides next
  | .resolve _ _ next => ∀ found, b.Guides (next found)

/-- Code that changes the world by itself uses the host by calls, and so does what it has kept. -/
def Respects (b : Buffer σ) (d : Deed κ σ) : Prop :=
  match d.op with
  | some (.act f) => b.Uses d.run.world (f d.run.world)
  | some (.keep resource) => b.Admits resource
  | _ => True

/-- Whatever the world is when the operation is asked for, it uses the host by calls. -/
def Allows (b : Buffer σ) : Op κ σ → Prop
  | .act f => ∀ w, b.Uses w (f w)
  | .keep resource => b.Admits resource
  | _ => True

/-- The host of a setting is the one in memory. The sink, the streams and the handlers of schemes
use it like everyone else, if they do. -/
structure Serves (b : Buffer σ) (s : Setting κ σ) : Prop where
  write (data : Bytes) (w : σ) : b.Calls [.inl (.write data)] w (s.host.write data w).2
  flush (w : σ) : b.Calls [.inl .flush] w (s.host.flush w).2
  closeSession (w : σ) : b.Calls [.inl .closeSession] w (s.host.closeSession w).2
  sink (d : Diagnostic) (w : σ) : b.Uses w (s.sink d w)
  read (path : String) (w : σ) : b.Uses w (s.streams.read path w).2
  remove (path : String) (w : σ) : b.Uses w (s.streams.remove path w).2
  search (handler : κ) (dir : Option String) (rest : String) : b.Guides (s.search handler dir rest)

/-- What a run keeps uses the host by calls, and there is no session once it is disposed. -/
structure Sound (b : Buffer σ) (r : Run κ σ) : Prop where
  resources : ∀ x ∈ r.resources, b.Admits x.2
  closed : r.isDisposed = true → (b.host r.world).sessionActive = false

/-- From a sound state another one is reached, the host has been used by calls, and the run has
written what it should. -/
def Conserves (b : Buffer σ) (s : Setting κ σ) : Effect κ σ := fun o r r' =>
  b.Sound r → b.Sound r' ∧ ∃ cs, b.Calls cs r.world r'.world ∧ s.Writes o r (own cs)

variable {b : Buffer σ} {w w' w₁ : σ} {cs cs' : List (HostCall ⊕ HostCall)}

@[simp] lemma merged_nil : merged [] = [] := rfl

@[simp] lemma merged_append : merged (cs ++ cs') = merged cs ++ merged cs' := List.map_append

@[simp] lemma own_nil : own [] = [] := rfl

@[simp] lemma own_append : own (cs ++ cs') = own cs ++ own cs' := by simp [own]

@[simp] lemma own_inl (c : HostCall) : own [.inl c] = c.output := List.append_nil _

@[simp] lemma own_others (cs : List HostCall) : own (cs.map .inr) = [] := by
  simp [own, List.filterMap_map]

namespace Calls

lemma refl (b : Buffer σ) (w : σ) : b.Calls [] w w where
  host := by simp
  noted := by simp

lemma trans (h : b.Calls cs w w₁) (h' : b.Calls cs' w₁ w') : b.Calls (cs ++ cs') w w' where
  host := by simp [h'.host, h.host]
  noted := by simp [h'.noted, h.noted]

lemma flushed_prefix (h : b.Calls cs w w') : (b.host w).flushed <+: (b.host w').flushed := by
  rw [h.host]
  exact MemoryHost.flushed_prefix_after _ _

lemma inactive (h : b.Calls cs w w') (hw : (b.host w).sessionActive = false) :
    (b.host w').sessionActive = false := by
  rw [h.host, MemoryHost.sessionActive_after, hw, Bool.false_and]

end Calls

namespace Uses

lemma refl (b : Buffer σ) (w : σ) : b.Uses w w := ⟨[], .refl b w⟩

lemma trans (h : b.Uses w w₁) (h' : b.Uses w₁ w') : b.Uses w w' := by
  obtain ⟨cs, h⟩ := h
  obtain ⟨cs', h'⟩ := h'
  refine ⟨cs ++ cs', ?_⟩
  rw [List.map_append]
  exact h.trans h'

end Uses

/-! ### Steps -/

instance (b : Buffer σ) (s : Setting κ σ) : Std.Refl (b.Conserves s none) :=
  ⟨fun r h => ⟨h, [], .refl b r.world, rfl⟩⟩

namespace Conserves

lemma trans (h : b.Conserves s o r r₁) (h' : b.Conserves s none r₁ r') : b.Conserves s o r r' := by
  intro hr
  obtain ⟨hr₁, cs, hcalls, hwrites⟩ := h hr
  obtain ⟨hr', cs', hcalls', hsilent⟩ := h' hr₁
  refine ⟨hr', cs ++ cs', hcalls.trans hcalls', ?_⟩
  rw [own_append, hsilent, List.append_nil]
  exact hwrites

/-- What writes nothing is silent whether or not it is asked for. -/
lemma of_silent (ho : s.Writes o r []) (h : b.Conserves s none r r') :
    b.Conserves s o r r' := by
  intro hr
  obtain ⟨hr', cs, hcalls, hsilent⟩ := h hr
  refine ⟨hr', cs, hcalls, ?_⟩
  rw [hsilent]
  exact ho

/-- A step on which nothing is kept that was not, and by which a run is not disposed. -/
lemma of_calls (h : b.Calls cs r.world r'.world)
    (ho : s.Writes o r (own cs)) (hr : r'.resources ⊆ r.resources)
    (hl : r'.isDisposed = true → r.isDisposed = true) : b.Conserves s o r r' := by
  intro hsound
  refine ⟨?_, cs, h, ho⟩
  constructor
  · intro x hx
    exact hsound.resources x (hr hx)
  · intro hd
    exact h.inactive (hsound.closed (hl hd))

lemma of_calls_eq (h : b.Calls cs r.world r'.world) (ho : s.Writes o r (own cs))
    (hr : r'.resources = r.resources) (hl : r'.lifecycle = r.lifecycle) :
    b.Conserves s o r r' := by
  refine of_calls h ho (hr ▸ List.Subset.refl _) ?_
  intro hd
  rw [Run.isDisposed, ← hl]
  exact hd

lemma uses (h : b.Uses r.world r'.world) (hr : r'.resources = r.resources)
    (hl : r'.lifecycle = r.lifecycle) : b.Conserves s none r r' := by
  obtain ⟨cs, hcalls⟩ := h
  exact of_calls_eq hcalls (own_others cs) hr hl

lemma idle (hw : r'.world = r.world) (hr : r'.resources = r.resources)
    (hl : r'.lifecycle = r.lifecycle) : b.Conserves s none r r' :=
  uses (hw ▸ .refl b r.world) hr hl

lemma keep {resource : Resource σ} (h : b.Admits resource) (r : Run κ σ) :
    b.Conserves s none r (r.keep resource).2 := by
  rw [Run.keep]
  split
  case isTrue => exact refl r
  case isFalse hd =>
    intro hsound
    refine ⟨⟨?_, fun hd' => absurd hd' hd⟩, [], .refl b r.world, rfl⟩
    intro x hx
    rcases List.mem_append.1 hx with hx | hx
    · exact hsound.resources x hx
    · rw [List.mem_singleton.1 hx]
      exact h

lemma handBack (id : Nat) (r : Run κ σ) : b.Conserves s none r (r.handBack id).2 := by
  rw [Run.handBack]
  split
  case h_1 => exact of_calls (.refl b r.world) rfl List.filter_sublist.subset fun hd => hd
  case h_2 => exact refl r

lemma onShutdown (code : κ) (r : Run κ σ) : b.Conserves s none r (r.onShutdown code) := by
  rw [Run.onShutdown]
  split
  case isTrue => exact refl r
  case isFalse => exact idle rfl rfl rfl

lemma track (path : String) (r : Run κ σ) : b.Conserves s none r (r.track path).2 := by
  rw [Run.track]
  split
  case isTrue => exact refl r
  case isFalse => exact idle rfl rfl rfl

lemma untrack (path : String) (r : Run κ σ) : b.Conserves s none r (r.untrack path).2 := by
  rw [Run.untrack]
  split
  case isTrue => exact idle rfl rfl rfl
  case isFalse => exact refl r

lemma declareFunction (f : FunctionDecl κ) (r : Run κ σ) :
    b.Conserves s none r (r.declareFunction f).2 := by
  obtain ⟨functions, h⟩ := r.declareFunction_frame f
  rw [h]
  exact idle rfl rfl rfl

lemma declareType (d : TypeDecl) (r : Run κ σ) : b.Conserves s none r (r.declareType d).2 := by
  obtain ⟨types, h⟩ := r.declareType_frame d
  rw [h]
  exact idle rfl rfl rfl

lemma declareAlias (d : TypeDecl) (further : String) (r : Run κ σ) :
    b.Conserves s none r (r.declareAlias d further).2 := by
  obtain ⟨types, h⟩ := r.declareAlias_frame d further
  rw [h]
  exact idle rfl rfl rfl

lemma markIncluded (u : ScriptUnit κ) (r : Run κ σ) :
    b.Conserves s none r (r.markIncluded u) := by
  obtain ⟨included, h⟩ := Run.mark_frame u r
  rw [Run.markIncluded, h]
  split
  case isTrue => exact refl r
  case isFalse => exact idle rfl rfl rfl

lemma entered (u : ScriptUnit κ) (hd : r.isDisposed = false) :
    b.Conserves s none r (r.entered u) := by
  have hlive : (r.entered u).isDisposed = false := (Quiet.script u r).isDisposed.trans hd
  obtain ⟨lifecycle, h⟩ := Run.begin_frame u hd
  rw [Run.entered, h] at hlive ⊢
  refine of_calls (.refl b r.world) rfl (List.Subset.refl r.resources) ?_
  intro hd'
  exact absurd hd' (Bool.eq_false_iff.1 hlive)

end Conserves

instance (b : Buffer σ) (s : Setting κ σ) (o : Option (Op κ σ)) :
    Trans (b.Conserves s o) (b.Conserves s none) (b.Conserves s o) :=
  ⟨Conserves.trans⟩

lemma leads_offerError (e : RunError) (r : Run κ σ) :
    (Errand.offerError e r).Leads (b.Conserves s) (·.2) none r := by
  rw [Errand.offerError]
  cases r.handler with
  | none => exact refl r
  | some handler =>
    refine ⟨.idle rfl rfl rfl, ?_⟩
    rintro ⟨o, vars, r'⟩
    cases o with
    | panic p => exact refl r'
    | _ => exact .idle rfl rfl rfl

/-- A step at the end of a teardown that uses the host by calls. -/
def Closes (b : Buffer σ) : Closing σ → Prop
  | .release _ resource => b.Admits resource
  | _ => True

lemma Sound.closings (h : b.Sound r) : ∀ c ∈ r.closings, b.Closes c := by
  intro c hc
  cases c with
  | release id resource =>
    refine h.resources (id, resource) ?_
    simpa [Run.closings, Run.releases, Run.deletions] using hc
  | _ => trivial

/-! ### Resolution -/

lemma uses_search {resolve : String → Option String → Run κ σ → Option (Found κ × Run κ σ)}
    (hresolve : ∀ {path : String} {dir : Option String} {r r' : Run κ σ} {found : Found κ},
      resolve path dir r = some (found, r') → b.Uses r.world r'.world)
    {x : Search κ σ} (hx : b.Guides x) {found : Found κ}
    (h : Run.search resolve x r = some (found, r')) : b.Uses r.world r'.world := by
  induction x generalizing r with
  | done result =>
    cases h
    exact .refl b r'.world
  | look next ih => exact ih r (hx r) h
  | act f next ih => exact (hx.1 r.world).trans (ih hx.2 h)
  | resolve path dir next ih =>
    rw [Run.search] at h
    split at h
    case h_1 => cases h
    case h_2 heq => exact (hresolve heq).trans (ih _ (hx _) h)

section Steps

variable (hb : b.Serves s)
include hb

lemma uses_resolveScript {fuel : Nat} {path : String} {dir : Option String} {found : Found κ}
    (h : Run.resolveScript s fuel path dir r = some (found, r')) : b.Uses r.world r'.world := by
  -- on the bound: a handler resolves paths one level further down
  induction fuel generalizing path dir r found r' with
  | zero =>
    rw [Run.resolveScript] at h
    split at h
    case h_1 =>
      cases h
      exact .refl b r.world
    case h_2 =>
      split at h
      case h_1 =>
        cases h
        exact .refl b r.world
      case h_2 => cases h
  | succ fuel ih =>
    rw [Run.resolveScript] at h
    split at h
    case h_1 =>
      cases h
      exact .refl b r.world
    case h_2 =>
      split at h
      case h_1 =>
        cases h
        exact .refl b r.world
      case h_2 => exact uses_search ih (hb.search _ _ _) h

lemma conserves_resolveScript {fuel : Nat} {path : String} {dir : Option String} {found : Found κ}
    (h : Run.resolveScript s fuel path dir r = some (found, r')) : b.Conserves s none r r' := by
  have huses := uses_resolveScript hb h
  obtain ⟨w, rfl⟩ := resolveScript_world h
  exact .uses huses rfl rfl

lemma conserves_report (d : Diagnostic) (r : Run κ σ) : b.Conserves s none r (r.report s d) :=
  .uses (hb.sink d r.world) rfl rfl

lemma conserves_declareConstant (c : Constant) (r : Run κ σ) :
    b.Conserves s none r (r.declareConstant s c).2 := by
  obtain ⟨constants, h | ⟨d, h⟩⟩ := r.declareConstant_frame s c
  · rw [h]
    exact .idle rfl rfl rfl
  · rw [h]
    have hframe : b.Conserves s none r { r with constants } := .idle rfl rfl rfl
    exact hframe.trans (conserves_report hb d _)

/-! ### The end of a teardown -/

lemma uses_tell (step : String) (o : Outcome Unit) (w : σ) : b.Uses w (Run.tell s step o w) := by
  rw [Run.tell]
  split
  · exact hb.sink _ w
  · exact .refl b w

lemma calls_closing {c : Closing σ} (hc : b.Closes c) (w : σ) :
    ∃ cs, b.Calls cs w (Run.tell s c.label (c.run s w).1 (c.run s w).2) ∧ own cs = [] := by
  obtain ⟨told, htold⟩ := uses_tell hb c.label (c.run s w).1 (c.run s w).2
  obtain ⟨cs, hcalls, hown⟩ : ∃ cs, b.Calls cs w (c.run s w).2 ∧ own cs = [] := by
    cases c with
    | release id resource =>
      obtain ⟨cs, hcalls⟩ := hc w
      exact ⟨cs.map .inr, hcalls, own_others cs⟩
    | closeSession => exact ⟨_, hb.closeSession w, rfl⟩
    | flush => exact ⟨_, hb.flush w, rfl⟩
    | delete path =>
      obtain ⟨cs, hcalls⟩ := hb.remove path w
      exact ⟨cs.map .inr, hcalls, own_others cs⟩
  refine ⟨cs ++ told.map .inr, hcalls.trans htold, ?_⟩
  rw [own_append, hown, own_others, List.append_nil]

lemma calls_carryOut {cs : List (Closing σ)} (hcs : ∀ c ∈ cs, b.Closes c) (w : σ) :
    ∃ calls, b.Calls calls w (Run.carryOut s cs w).2 := by
  induction cs generalizing w with
  | nil => exact ⟨[], .refl b w⟩
  | cons c cs ih =>
    obtain ⟨hc, hcs⟩ := List.forall_mem_cons.1 hcs
    obtain ⟨calls, hcalls, -⟩ := calls_closing hb hc w
    obtain ⟨calls', hcalls'⟩ := ih hcs (Run.tell s c.label (c.run s w).1 (c.run s w).2)
    exact ⟨calls ++ calls', hcalls.trans hcalls'⟩

/-- Each step at the end of a teardown. -/
lemma conserves_closing {c : Closing σ} {u : Run.Unwinding κ σ} (hc : c ∈ u.run.closings) :
    b.Conserves s none u.run (u.perform s c).run := by
  intro hsound
  obtain ⟨cs, hcalls, hown⟩ := calls_closing hb (hsound.closings c hc) u.run.world
  have hstep : b.Conserves s none u.run (u.perform s c).run := by
    simp only [Run.Unwinding.perform, Run.conclude_eq]
    exact .of_calls hcalls hown (List.Subset.refl _) fun hd => hd
  exact hstep hsound

omit hb in
lemma closed_world (r : Run κ σ) :
    (r.closed s).world =
      (Run.carryOut s r.deletions (Run.carryOut s [.flush]
        (Run.carryOut s [.closeSession] (Run.carryOut s r.releases r.world).2).2).2).2 := by
  have hclosings : r.closings = r.releases ++ ([.closeSession] ++ ([.flush] ++ r.deletions)) := by
    simp [Run.closings]
  show (Run.carryOut s r.closings r.world).2 = _
  rw [hclosings, Run.carryOut_append, Run.carryOut_append, Run.carryOut_append]

/-- There is no session any more, since what comes after it has been closed opens none. -/
lemma inactive_closed (r : Run κ σ) : (b.host (r.closed s).world).sessionActive = false := by
  rw [closed_world]
  generalize (Run.carryOut s r.releases r.world).2 = w
  have hsession : (b.host (Run.carryOut s [.closeSession] w).2).sessionActive = false := by
    obtain ⟨told, htold⟩ := uses_tell hb (Closing.closeSession.label (σ := σ))
      (Closing.closeSession.run s w).1 (Closing.closeSession.run s w).2
    refine htold.inactive ?_
    show (b.host (s.host.closeSession w).2).sessionActive = false
    rw [(hb.closeSession w).host]
    simp [merged, MemoryHost.sessionActive_serve]
  have hflush : ∀ c ∈ ([.flush] : List (Closing σ)), b.Closes c := by simp [Closes]
  have hdelete : ∀ c ∈ r.deletions, b.Closes c := by simp [Run.deletions, Closes]
  obtain ⟨cs, hcalls⟩ := calls_carryOut hb hflush (Run.carryOut s [.closeSession] w).2
  obtain ⟨cs', hcalls'⟩ := calls_carryOut hb hdelete
    (Run.carryOut s [.flush] (Run.carryOut s [.closeSession] w).2).2
  exact (hcalls.trans hcalls').inactive hsession

lemma along_closing {cs : List (Closing σ)} {u : Run.Unwinding κ σ}
    (hcs : ∀ c ∈ cs, c ∈ u.run.closings) {last : Run κ σ}
    (h : b.Conserves s none (cs.foldl (Run.Unwinding.perform s) u).run last) :
    Along (b.Conserves s) none u.run (closingDeeds s cs u) (some last) := by
  induction cs generalizing u with
  | nil => exact h
  | cons c cs ih =>
    obtain ⟨hc, hcs⟩ := List.forall_mem_cons.1 hcs
    have hsame : (u.perform s c).run.closings = u.run.closings := by
      simp only [Run.Unwinding.perform, Run.conclude_eq]
      rfl
    refine ⟨refl u.run, (ih (fun c hc => ?_) h).head (conserves_closing hb hc)⟩
    rw [hsame]
    exact hcs c hc

lemma conserves_closed (u : Run.Unwinding κ σ) :
    Along (b.Conserves s) none u.run (closingDeeds s u.run.closings u)
      (some (u.run.closed s)) := by
  apply along_closing hb fun _ hc => hc
  intro _
  refine ⟨⟨nofun, fun _ => inactive_closed hb u.run⟩, [], ?_, rfl⟩
  rw [Run.foldl_perform]
  exact .refl b _

omit hb in
lemma host_tell (hsink : ∀ d w, b.host (s.sink d w) = b.host w) (step : String) (o : Outcome Unit)
    (w : σ) : b.host (Run.tell s step o w) = b.host w := by
  rw [Run.tell]
  split
  · exact hsink _ w
  · rfl

omit hb in
lemma host_deletions (hsink : ∀ d w, b.host (s.sink d w) = b.host w)
    (hremove : ∀ path w, b.host (s.streams.remove path w).2 = b.host w) (paths : List String)
    (w : σ) : b.host (Run.carryOut s (paths.map .delete) w).2 = b.host w := by
  induction paths generalizing w with
  | nil => rfl
  | cons path paths ih =>
    simp only [List.map_cons, Run.carryOut]
    rw [ih, host_tell hsink]
    exact hremove path w

/-- What a teardown leaves is all sent on: the files that are deleted after the flush bring no
output, and neither do the warnings about them. -/
lemma pending_closed (hsink : ∀ d w, b.host (s.sink d w) = b.host w)
    (hremove : ∀ path w, b.host (s.streams.remove path w).2 = b.host w) (r : Run κ σ) :
    (b.host (r.closed s).world).pending = [] := by
  rw [closed_world, Run.deletions, host_deletions hsink hremove]
  simp only [Run.carryOut, Closing.run]
  rw [host_tell hsink, (hb.flush _).host]
  rfl

/-! ### Operations -/

/-- To include what leads to no script writes the content of the raw file. -/
lemma conserves_includeRaw {fuel : Nat} {q : Request}
    (hres : Run.resolveScript s fuel q.path q.dir r = some (.ok none, r₁))
    (ho : s.Writes o r (r₁.readRaw s (s.resolver.rawPath q.path q.dir)).1.content) :
    b.Conserves s o r (r₁.includeRaw s q).2 := by
  have huses : b.Uses r.world (r₁.readRaw s (s.resolver.rawPath q.path q.dir)).2.world :=
    (uses_resolveScript hb hres).trans (hb.read _ r₁.world)
  have hkept : (r₁.readRaw s (s.resolver.rawPath q.path q.dir)).2.resources = r.resources ∧
      (r₁.readRaw s (s.resolver.rawPath q.path q.dir)).2.lifecycle = r.lifecycle := by
    obtain ⟨w, rfl⟩ := resolveScript_world hres
    exact ⟨rfl, rfl⟩
  rw [Run.includeRaw]
  generalize r₁.readRaw s (s.resolver.rawPath q.path q.dir) = x at huses hkept ho ⊢
  obtain ⟨out, r₂⟩ := x
  cases out with
  | ok data =>
    obtain ⟨cs, hcalls⟩ := huses
    refine .of_calls_eq (hcalls.trans (hb.write data r₂.world)) ?_ hkept.1 hkept.2
    rw [own_append, own_others, own_inl]
    exact ho
  | panic p => exact .of_silent ho (.uses huses hkept.1 hkept.2)
  | error e =>
    have hread : b.Conserves s o r r₂ := .of_silent ho (.uses huses hkept.1 hkept.2)
    dsimp only
    split
    case isTrue => exact hread.trans (conserves_report hb _ r₂)
    case isFalse => exact hread.trans (conserves_report hb _ r₂)

/-- To include a path writes the content of a raw file, if anything. -/
lemma leads_includeScript {fuel : Nat} {q : Request}
    (ho : ∀ data, (∃ fuel, r.rawContent s fuel q.path q.dir = some data) → s.Writes o r data)
    (vars : Variables) :
    (Errand.includeScript s fuel q vars r).Leads (b.Conserves s) (·.2.2) o r := by
  have hraw (data : Bytes) (h : r.rawContent s fuel q.path q.dir = some data) :
      s.Writes o r data := ho data ⟨fuel, h⟩
  rw [Run.rawContent] at hraw
  rw [Errand.includeScript]
  split
  case isTrue hd =>
    rw [if_pos hd] at hraw
    exact .of_silent (hraw [] rfl) (refl r)
  case isFalse hd =>
    rw [if_neg hd] at hraw
    cases hres : Run.resolveScript s fuel q.path q.dir r with
    | none => trivial
    | some x =>
      obtain ⟨found, r₁⟩ := x
      rw [hres] at hraw
      have hsearch : b.Conserves s none r r₁ := conserves_resolveScript hb hres
      rcases found with p | _ | u
      · exact .of_silent (hraw [] rfl) hsearch
      · exact conserves_includeRaw hb hres (hraw _ rfl)
      · obtain ⟨w, rfl⟩ := resolveScript_world hres
        have hsilent : s.Writes o r [] := hraw [] rfl
        dsimp only
        split
        case isTrue => exact .of_silent hsilent hsearch
        case isFalse =>
          refine ⟨.of_silent hsilent ?_, fun y => refl y.2.2⟩
          exact hsearch.trans (.entered u (Bool.eq_false_iff.2 hd))

lemma leads_includeGlobal {fuel : Nat} {path : String} {once require : Bool}
    (ho : ∀ data, (∃ fuel, r.rawContent s fuel path none = some data) → s.Writes o r data) :
    (Errand.includeGlobal s fuel path once require r).Leads (b.Conserves s) (·.2) o r := by
  apply Errand.Leads.map (leads_includeScript hb ho .global)
  intro x
  exact refl x.2.2

lemma leads_runEntry {fuel : Nat} {path : String}
    (ho : ∀ data, (∃ fuel, r.rawContent s fuel path none = some data) → s.Writes o r data) :
    (Errand.runEntry s fuel path r).Leads (b.Conserves s) (·.2) o r := by
  refine (leads_includeGlobal hb ho).bind ?_
  rintro ⟨o, r'⟩
  cases o with
  | error e => exact (leads_offerError e r').map fun x => refl x.2
  | _ => exact refl r'

lemma leads_drain (fuel : Nat) (u : Run.Unwinding κ σ) :
    (Errand.drain s fuel u).Leads (b.Conserves s) (·.run) none u.run :=
  .drain (fun _ _ _ => .idle rfl rfl rfl) (fun r o => .uses (uses_tell hb _ o r.world) rfl rfl) fuel u

/-- Every operation but the end of a run, if what is asked for touches the host by calls only. -/
lemma leads_perform {fuel : Nat} {op : Op κ σ} {context : Option (ScriptContext κ)}
    {vars : Variables} (hop : op ≠ .dispose) (hd : b.Respects ⟨context, vars, r, some op⟩) :
    (Errand.perform s fuel op vars r).Leads (b.Conserves s) (·.2.2) (some op) r := by
  have hhook (name : String) : b.Conserves s none r (r.record (.began (.autoload name))) :=
    .idle rfl rfl rfl
  cases op with
  | dispose => exact absurd rfl hop
  | write data => exact .of_calls_eq (hb.write data r.world) (own_inl _) rfl rfl
  | flush => exact .of_calls_eq (hb.flush r.world) rfl rfl rfl
  | closeSession => exact .of_calls_eq (hb.closeSession r.world) rfl rfl rfl
  | includeShared q =>
    apply leads_includeScript hb
    intro data h
    exact h
  | includeLending q bindings =>
    refine (leads_includeScript hb ?_ _).map fun x => refl x.2.2
    intro data h
    exact h
  | includeGlobal path once require =>
    refine (leads_includeGlobal hb ?_).map fun x => refl x.2
    intro data h
    exact h
  | runEntry path =>
    refine (leads_runEntry hb ?_).map fun x => refl x.2
    intro data h
    exact h
  | act f => exact .of_silent rfl (.uses hd rfl rfl)
  | keep resource => exact .of_silent rfl (.keep hd r)
  | assign f => cases vars <;> exact .of_silent rfl (.idle rfl rfl rfl)
  | call code input => exact ⟨.of_silent rfl (refl r), fun y => refl y.2.2⟩
  | resolveType name caller autoload =>
    refine .imp (fun _ => .of_silent rfl) ?_
    exact (Errand.Leads.resolveType hhook name caller autoload).map fun x => refl x.2
  | needType name caller autoload =>
    refine .imp (fun _ => .of_silent rfl) ?_
    exact (Errand.Leads.needType hhook name caller autoload).map fun x => refl x.2
  | ensureType d =>
    refine .imp (fun _ => .of_silent rfl) ?_
    exact (Errand.Leads.ensureType hhook d).map fun x => refl x.2
  | offerError e =>
    refine .imp (fun _ => .of_silent rfl) ?_
    exact (leads_offerError e r).map fun x => refl x.2
  | resolveScript path dir =>
    apply Errand.Leads.ofOption
    intro x hx
    obtain ⟨⟨found, r₁⟩, hres, rfl⟩ := Option.map_eq_some_iff.1 hx
    exact .of_silent rfl (conserves_resolveScript hb hres)
  | declareFunction f => exact .of_silent rfl (.declareFunction f r)
  | declareType d => exact .of_silent rfl (.declareType d r)
  | declareAlias d further => exact .of_silent rfl (.declareAlias d further r)
  | declareConstant c => exact .of_silent rfl (conserves_declareConstant hb c r)
  | markIncluded u => exact .of_silent rfl (.markIncluded u r)
  | onShutdown code => exact .of_silent rfl (.onShutdown code r)
  | handBack id => exact .of_silent rfl (.handBack id r)
  | track path => exact .of_silent rfl (.track path r)
  | untrack path => exact .of_silent rfl (.untrack path r)
  | report d => exact .of_silent rfl (conserves_report hb d r)
  | _ => exact .of_silent rfl (.idle rfl rfl rfl)

/-- Every single step of a run conserves what the host has been given. -/
theorem paces : s.Paces b.Respects (b.Conserves s) where
  perform := leads_perform hb
  dispose := .of_silent rfl
  tearDown _ := .of_calls (.refl b _) rfl (List.Subset.refl _) nofun
  drain := leads_drain hb
  closing := conserves_closed hb

/-- So does the beginning of a run. -/
lemma conserves_start (args : Option (List String)) (w : σ) :
    b.Conserves s none (Run.blank s.app w) (s.start args w) := by
  have h := conserves_declareConstant hb ⟨"SERVER_API", .str s.options.serverApi, false⟩
    (Run.blank s.app w)
  cases args with
  | none => exact h
  | some args => exact h.trans (.idle rfl rfl rfl)

end Steps

end Buffer

end ScriptRun
