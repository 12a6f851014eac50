import ScriptRun.Proofs.Run.Teardown

/-!
# Execution makes stretches

Each operation makes a stretch, given that the calls it makes do; since calls nest to a bounded
depth, all code does (`stretches_invoke`). The proof follows the definition of the operations, and
it is the only one that does: what holds of runs at every moment is derived from their moves.

A moment of a run is any state that moves lead to from its start. The states between the actions of
a host are moments in which no teardown is under way.
-/

namespace ScriptRun

open Relation

variable {κ σ : Type} {s : Setting κ σ} {r r' r₁ : Run κ σ}

section Operations

variable {call : Invoke κ σ} {fuel : Nat}

/-! ### Type names -/

lemma stretch_lookupType (hc : call.Stretches s) {name : String} {autoload : Bool}
    {o : Outcome (Option TypeDecl)}
    (h : Run.lookupType s call name autoload r = some (o, r')) : Stretch s r r' := by
  rw [Run.lookupType] at h
  split at h
  case h_1 => cases h; exact .refl r
  case h_2 =>
    split at h
    case isTrue => cases h; exact .refl r
    case isFalse hd =>
      split at h
      case h_1 => cases h; exact .refl r
      case h_2 hook _ =>
        have hbegin : Change s r (r.record (.began (.autoload name))) :=
          .began _ rfl (Bool.or_eq_false_iff.1 (Bool.eq_false_iff.2 hd)).2
        split at h
        case h_1 => cases h
        case h_2 heq => cases h; exact .head hbegin (hc heq)
        case h_3 heq => cases h; exact .head hbegin (hc heq)
        case h_4 heq => cases h; exact .head hbegin (hc heq)

lemma stretch_resolveType (hc : call.Stretches s) {name : String} {caller : Option TypeDecl}
    {autoload : Bool} {o : Outcome (Option TypeDecl)}
    (h : Run.resolveType s call name caller autoload r = some (o, r')) : Stretch s r r' := by
  rw [Run.resolveType] at h
  split at h
  case h_4 => exact stretch_lookupType hc h
  all_goals cases h; exact .refl r

lemma stretch_needType (hc : call.Stretches s) {name : String} {caller : Option TypeDecl}
    {autoload : Bool} {o : Outcome TypeDecl}
    (h : Run.needType s call name caller autoload r = some (o, r')) : Stretch s r r' := by
  obtain ⟨⟨o, r''⟩, h, heq⟩ := Option.map_eq_some_iff.1 h
  cases heq
  exact stretch_resolveType hc h

lemma stretch_ensureType (hc : call.Stretches s) {d : TypeDecl} {o : Outcome Unit}
    (h : Run.ensureType s call d r = some (o, r')) : Stretch s r r' := by
  rw [Run.ensureType] at h
  split at h
  case isTrue => cases h; exact .refl r
  case isFalse =>
    obtain ⟨⟨o, r''⟩, h, heq⟩ := Option.map_eq_some_iff.1 h
    cases heq
    exact stretch_lookupType hc h

/-! ### Inclusion -/

/-- A search changes nothing but the world. -/
lemma search_world {resolve : String → Option String → Run κ σ → Option (Found κ × Run κ σ)}
    (hr : ∀ {path dir r found r'}, resolve path dir r = some (found, r') →
      ∃ world, r' = { r with world })
    {search : Search κ σ} {found : Found κ} (h : Run.search resolve search r = some (found, r')) :
    ∃ world, r' = { r with world } := by
  induction search generalizing r with
  | done result => cases h; exact ⟨_, rfl⟩
  | look next ih => exact ih _ h
  | act f next ih =>
    obtain ⟨w, rfl⟩ := ih (r := { r with world := f r.world }) h
    exact ⟨w, rfl⟩
  | resolve path dir next ih =>
    rw [Run.search] at h
    split at h
    case h_1 => cases h
    case h_2 heq =>
      obtain ⟨w, rfl⟩ := hr heq
      obtain ⟨w', rfl⟩ := ih _ h
      exact ⟨w', rfl⟩

/-- Resolution changes nothing but the world. -/
lemma resolveScript_world {path : String} {dir : Option String} {found : Found κ}
    (h : Run.resolveScript s fuel path dir r = some (found, r')) :
    ∃ world, r' = { r with world } := by
  induction fuel generalizing path dir r found r' with
  | zero =>
    rw [Run.resolveScript] at h
    split at h
    case h_1 => cases h; exact ⟨_, rfl⟩
    case h_2 =>
      split at h
      case h_1 => cases h; exact ⟨_, rfl⟩
      case h_2 => cases h
  | succ fuel ih =>
    rw [Run.resolveScript] at h
    split at h
    case h_1 => cases h; exact ⟨_, rfl⟩
    case h_2 =>
      split at h
      case h_1 => cases h; exact ⟨_, rfl⟩
      case h_2 => exact search_world ih h

lemma stretch_resolveScript {path : String} {dir : Option String} {found : Found κ}
    (h : Run.resolveScript s fuel path dir r = some (found, r')) : Stretch s r r' := by
  obtain ⟨w, rfl⟩ := resolveScript_world h
  exact .ofChange (.world w)

lemma stretch_readRaw (hd : r.isDisposed = false) (path : String) :
    Stretch s r (r.readRaw s path).2 :=
  .tail (.ofChange (.world (s.streams.read path r.world).2)) (.began (.read path) rfl hd)

lemma stretch_writeRaw (hd : r.isDisposed = false) (data : Bytes) :
    Stretch s r (r.writeRaw s data).2 :=
  .tail (.ofChange (.world (s.host.write data r.world).2)) (.began (.write data) rfl hd)

/-- Trying a path as a raw file. -/
lemma stretch_includeRaw (hd : r.isDisposed = false) (q : Request) :
    Stretch s r (r.includeRaw s q).2 := by
  have hread := stretch_readRaw (s := s) hd (s.resolver.rawPath q.path q.dir)
  have hd' : (r.readRaw s (s.resolver.rawPath q.path q.dir)).2.isDisposed = false := hd
  rw [Run.includeRaw]
  generalize r.readRaw s (s.resolver.rawPath q.path q.dir) = x at hread hd' ⊢
  obtain ⟨o, r₁⟩ := x
  cases o with
  | ok data => exact hread.trans (stretch_writeRaw hd' data)
  | panic p => exact hread
  | error e =>
    dsimp only
    split
    case isTrue => exact hread.tail (.report _)
    case isFalse => exact hread.tail (.report _)

lemma stretch_includeScript (hc : call.Stretches s) {q : Request} {vars vars' : Variables}
    {o : Outcome Value}
    (h : Run.includeScript s call fuel q vars r = some (o, vars', r')) : Stretch s r r' := by
  rw [Run.includeScript] at h
  split at h
  case isTrue => cases h; exact .refl r
  case isFalse hd =>
    split at h
    case h_1 => cases h
    case h_2 heq => cases h; exact stretch_resolveScript heq
    case h_3 heq =>
      obtain ⟨w, rfl⟩ := resolveScript_world heq
      have hd' : ({ r with world := w } : Run κ σ).isDisposed = false := Bool.eq_false_iff.2 hd
      cases h
      exact .head (.world w) (stretch_includeRaw hd' q)
    case h_4 u _ heq =>
      obtain ⟨w, rfl⟩ := resolveScript_world heq
      split at h
      case isTrue => cases h; exact .ofChange (.world w)
      case isFalse =>
        exact .head (.world w) (.head (.script u (Bool.eq_false_iff.2 hd)) (hc h))

lemma stretch_includeGlobal (hc : call.Stretches s) {path : String} {once require : Bool}
    {o : Outcome Value}
    (h : Run.includeGlobal s call fuel path once require r = some (o, r')) : Stretch s r r' := by
  obtain ⟨⟨o, vars, r''⟩, h, heq⟩ := Option.map_eq_some_iff.1 h
  cases heq
  exact stretch_includeScript hc h

/-! ### Errors that nothing else caught -/

lemma stretch_offerError (hc : call.Stretches s) {e : RunError} {o : Outcome Bool}
    (h : Run.offerError call e r = some (o, r')) : Stretch s r r' := by
  rw [Run.offerError] at h
  split at h
  case h_1 => cases h; exact .refl r
  case h_2 handler _ =>
    have hbegin : Stretch s r ({ r with handler := none }.record (.handled e)) :=
      .tail (.ofChange (.handler none)) (.note _ rfl)
    split at h
    case h_1 => cases h
    case h_2 heq => cases h; exact hbegin.trans (hc heq)
    case h_3 heq => cases h; exact .tail (hbegin.trans (hc heq)) (.handler _)

lemma stretch_runEntry (hc : call.Stretches s) {path : String} {o : Outcome Value}
    (h : Run.runEntry s call fuel path r = some (o, r')) : Stretch s r r' := by
  rw [Run.runEntry] at h
  split at h
  case h_1 => cases h
  case h_2 e r₁ heq =>
    obtain ⟨⟨o, r₂⟩, h, heq'⟩ := Option.map_eq_some_iff.1 h
    cases heq'
    exact (stretch_includeGlobal hc heq).trans (stretch_offerError hc h)
  case h_3 heq => cases h; exact stretch_includeGlobal hc heq

/-! ### All operations, and all code -/

lemma stretch_perform (hc : call.Stretches s) {op : Op κ σ} {vars vars' : Variables}
    {a : op.Answer} (h : op.perform s call fuel vars r = some (a, vars', r')) : Stretch s r r' := by
  cases op with
  | act f => cases h; exact .ofChange (.world _)
  | assign f =>
    cases vars with
    | global => cases h; exact .ofChange (.globals _)
    | lent l => cases h; exact .refl r
  | assignGlobals f => cases h; exact .ofChange (.globals _)
  | call code input =>
    obtain ⟨⟨o, v, r''⟩, h, heq⟩ := Option.map_eq_some_iff.1 h
    cases heq
    exact hc h
  | declareFunction f => cases h; exact .ofChange (.declareFunction f)
  | declareType d => cases h; exact .ofChange (.declareType d)
  | declareAlias d further => cases h; exact .ofChange (.declareAlias d further)
  | declareConstant c => cases h; exact .ofChange (.declareConstant c)
  | resolveType name caller autoload =>
    obtain ⟨⟨o, r''⟩, h, heq⟩ := Option.map_eq_some_iff.1 h
    cases heq
    exact stretch_resolveType hc h
  | needType name caller autoload =>
    obtain ⟨⟨o, r''⟩, h, heq⟩ := Option.map_eq_some_iff.1 h
    cases heq
    exact stretch_needType hc h
  | ensureType d =>
    obtain ⟨⟨o, r''⟩, h, heq⟩ := Option.map_eq_some_iff.1 h
    cases heq
    exact stretch_ensureType hc h
  | resolveScript path dir =>
    obtain ⟨⟨o, r''⟩, h, heq⟩ := Option.map_eq_some_iff.1 h
    cases heq
    exact stretch_resolveScript h
  | includeShared q => exact stretch_includeScript hc h
  | includeLending q bindings =>
    obtain ⟨⟨o, v, r''⟩, h, heq⟩ := Option.map_eq_some_iff.1 h
    cases heq
    exact stretch_includeScript hc h
  | includeGlobal path once require =>
    obtain ⟨⟨o, r''⟩, h, heq⟩ := Option.map_eq_some_iff.1 h
    cases heq
    exact stretch_includeGlobal hc h
  | runEntry path =>
    obtain ⟨⟨o, r''⟩, h, heq⟩ := Option.map_eq_some_iff.1 h
    cases heq
    exact stretch_runEntry hc h
  | markIncluded u => cases h; exact .ofChange (.markIncluded u)
  | onShutdown code => cases h; exact .ofChange (.onShutdown code)
  | keep resource => cases h; exact .ofChange (.keep resource)
  | handBack id => cases h; exact .ofChange (.handBack id)
  | track path => cases h; exact .ofChange (.track path)
  | untrack path => cases h; exact .ofChange (.untrack path)
  | setHandler code => cases h; exact .ofChange (.handler _)
  | clearHandler => cases h; exact .ofChange (.handler _)
  | offerError e =>
    obtain ⟨⟨o, r''⟩, h, heq⟩ := Option.map_eq_some_iff.1 h
    cases heq
    exact stretch_offerError hc h
  | report d => cases h; exact .ofChange (.report d)
  | write data => cases h; exact .tail (.ofChange (.world _)) (.note (.wrote data) rfl)
  | flush => cases h; exact .tail (.ofChange (.world _)) (.note .flushed rfl)
  | closeSession => cases h; exact .tail (.ofChange (.world _)) (.note .closed rfl)
  | dispose =>
    obtain ⟨⟨o, r''⟩, h, heq⟩ := Option.map_eq_some_iff.1 h
    cases heq
    exact stretch_dispose hc h

lemma stretch_exec (hc : call.Stretches s) {g : Guest κ σ} {context : Option (ScriptContext κ)}
    {vars vars' : Variables} {o : Outcome Value}
    (h : g.exec s call fuel context vars r = some (o, vars', r')) : Stretch s r r' := by
  induction g generalizing vars r with
  | done result => cases h; exact .refl _
  | look next ih => exact ih _ h
  | ask op next ih =>
    rw [Guest.exec] at h
    split at h
    case h_1 => cases h
    case h_2 heq => exact (stretch_perform hc heq).trans (ih _ h)

end Operations

/-- All code keeps to moves, and to changes once teardown has begun. -/
theorem stretches_invoke (s : Setting κ σ) (depth : Nat) : (s.invoke depth).Stretches s := by
  -- on the depth: code calls other code, and itself, one level further down
  induction depth with
  | zero =>
    intro code input context vars r o vars' r' h
    cases h
  | succ depth ih =>
    intro code input context vars r o vars' r' h
    exact stretch_exec ih h

/-! ### Moments -/

/-- A state of a run at some moment. -/
def Moment (s : Setting κ σ) (r : Run κ σ) : Prop := ∃ args w, Moves s (s.start args w) r

/-- A state of a run between the actions of its host. -/
inductive Hosted (s : Setting κ σ) : Run κ σ → Prop
  | start (args : Option (List String)) (w : σ) : Hosted s (s.start args w)
  | run {r r' : Run κ σ} {depth : Nat} {g : Guest κ σ} {o : Outcome Value} (hr : Hosted s r)
    (h : s.run depth g r = some (o, r')) : Hosted s r'

lemma Moment.later (hr : Moment s r) (h : Moves s r r') : Moment s r' := by
  obtain ⟨args, w, hs⟩ := hr
  exact ⟨args, w, hs.trans h⟩

lemma Moment.stretch (hr : Moment s r) (h : Stretch s r r') : Moment s r' := hr.later h.moves

/-- What holds at the start and survives each move holds at every moment. -/
lemma Moment.induction {P : Run κ σ → Prop} (hs : ∀ args w, P (s.start args w))
    (hm : ∀ {r r' : Run κ σ}, Move s r r' → P r → P r') (hr : Moment s r) : P r := by
  obtain ⟨args, w, h⟩ := hr
  induction h with
  | refl => exact hs args w
  | tail _ h ih => exact hm h ih

lemma stretch_run {depth : Nat} {g : Guest κ σ} {o : Outcome Value}
    (h : s.run depth g r = some (o, r')) : Stretch s r r' := by
  obtain ⟨⟨o, v, r''⟩, h, heq⟩ := Option.map_eq_some_iff.1 h
  cases heq
  exact stretch_exec (stretches_invoke s depth) h

/-- The start of a run writes nothing into its books. -/
lemma quiet_start (args : Option (List String)) (w : σ) :
    Quiet (Run.blank s.app w) (s.start args w) := by
  have h := Quiet.declareConstant s ⟨"SERVER_API", .str s.options.serverApi, false⟩
    (Run.blank s.app w)
  cases args with
  | none => exact h
  | some args => exact ⟨h.books, h.lifecycle, h.events⟩

/-- Between the actions of the host a run is at some moment, and no teardown is under way. -/
lemma Hosted.moment (hr : Hosted s r) : Moment s r ∧ r.lifecycle ≠ .shuttingDown := by
  induction hr with
  | start args w =>
    refine ⟨⟨args, w, .refl⟩, ?_⟩
    rcases (quiet_start args w).lifecycle with h | ⟨-, h⟩
    · rw [h]
      exact Lifecycle.noConfusion
    · rw [h]
      exact Lifecycle.noConfusion
  | run _ h ih => exact ⟨ih.1.stretch (stretch_run h), (stretch_run h).whole ih.2⟩

end ScriptRun
