import ScriptRun.Proofs.Run.Deeds

/-!
# What a run writes

Only two things write to the output of a run by themselves: code that writes directly, and the
inclusion of a path that leads to no script but to a raw file. What is written is determined by what
is asked for, and by the state that it is asked for in.
-/

namespace ScriptRun

variable {κ σ : Type} {s : Setting κ σ} {r : Run κ σ} {o : Option (Op κ σ)}

/-- What can be read of a file, which is nothing if reading fails. -/
def FileOutcome.content : FileOutcome Bytes → Bytes
  | .ok data => data
  | _ => []

/-- What is written when a path is included from a directory: the content of a raw file, if the run
is not disposed and the path leads to no script. There is no answer if a bound is too low. -/
def Run.rawContent (s : Setting κ σ) (fuel : Nat) (path : String) (dir : Option String)
    (r : Run κ σ) : Option Bytes :=
  if r.isDisposed then some []
  else
    match Run.resolveScript s fuel path dir r with
    | none => none
    | some (.ok none, r) => some (r.readRaw s (s.resolver.rawPath path dir)).1.content
    | some _ => some []

/-- What is written when something is asked for in some state. Only a direct write and inclusion
write at all. What the code writes that is called meanwhile is not counted. -/
def Setting.Writes (s : Setting κ σ) (o : Option (Op κ σ)) (r : Run κ σ) (data : Bytes) : Prop :=
  match o with
  | some (.write output) => data = output
  | some (.includeShared q) => ∃ fuel, r.rawContent s fuel q.path q.dir = some data
  | some (.includeLending q _) => ∃ fuel, r.rawContent s fuel q.path q.dir = some data
  | some (.includeGlobal path _ _) => ∃ fuel, r.rawContent s fuel path none = some data
  | some (.runEntry path) => ∃ fuel, r.rawContent s fuel path none = some data
  | _ => data = []

/-- What is written by all that is asked for in a list of deeds, one after the other. -/
def Setting.WritesAll (s : Setting κ σ) : List (Deed κ σ) → Bytes → Prop
  | [], data => data = []
  | d :: ds, data =>
    ∃ first rest, data = first ++ rest ∧ s.Writes d.op d.run first ∧ s.WritesAll ds rest

/-! ### What is written is determined -/

section Determined

variable {fuel fuel' : Nat} {path : String} {dir : Option String} {x : Found κ × Run κ σ}
  {data data' : Bytes}

namespace Run

lemma search_mono {resolve resolve' : String → Option String → Run κ σ → Option (Found κ × Run κ σ)}
    (hle : ∀ {path dir r x}, resolve path dir r = some x → resolve' path dir r = some x)
    {search : Search κ σ} (h : Run.search resolve search r = some x) :
    Run.search resolve' search r = some x := by
  induction search generalizing r with
  | done result => exact h
  | look next ih => exact ih r h
  | act f next ih => exact ih h
  | resolve path dir next ih =>
    rw [Run.search] at h ⊢
    cases hres : resolve path dir r with
    | none =>
      rw [hres] at h
      cases h
    | some y =>
      rw [hres] at h
      rw [hle hres]
      exact ih _ h

lemma resolveScript_succ (h : resolveScript s fuel path dir r = some x) :
    resolveScript s (fuel + 1) path dir r = some x := by
  induction fuel generalizing path dir r x with
  | zero =>
    rw [resolveScript] at h ⊢
    split at h
    case h_1 => exact h
    case h_2 =>
      split at h
      case h_1 => exact h
      case h_2 => cases h
  | succ fuel ih =>
    rw [resolveScript] at h ⊢
    split at h
    case h_1 => exact h
    case h_2 =>
      split at h
      case h_1 => exact h
      case h_2 => exact search_mono ih h

/-- A path leads to the same under every bound that is high enough. -/
lemma resolveScript_mono (hle : fuel ≤ fuel') (h : resolveScript s fuel path dir r = some x) :
    resolveScript s fuel' path dir r = some x := by
  induction hle with
  | refl => exact h
  | step _ ih => exact resolveScript_succ ih

lemma rawContent_mono (hle : fuel ≤ fuel') (h : r.rawContent s fuel path dir = some data) :
    r.rawContent s fuel' path dir = some data := by
  rw [rawContent] at h ⊢
  split at h
  case isTrue hd => rwa [if_pos hd]
  case isFalse hd =>
    rw [if_neg hd]
    cases hres : resolveScript s fuel path dir r with
    | none =>
      rw [hres] at h
      cases h
    | some x =>
      rw [hres] at h
      rw [resolveScript_mono hle hres]
      exact h

lemma rawContent_unique (h : ∃ fuel, r.rawContent s fuel path dir = some data)
    (h' : ∃ fuel, r.rawContent s fuel path dir = some data') : data = data' := by
  obtain ⟨fuel, h⟩ := h
  obtain ⟨fuel', h'⟩ := h'
  rcases Nat.le_total fuel fuel' with hle | hle
  · exact Option.some.inj ((rawContent_mono hle h).symm.trans h')
  · exact Option.some.inj (h.symm.trans (rawContent_mono hle h'))

end Run

lemma Setting.writes_unique (h : s.Writes o r data) (h' : s.Writes o r data') : data = data' := by
  cases o with
  | none => exact h.trans (Eq.symm h')
  | some op =>
    cases op with
    | includeShared | includeLending | includeGlobal | runEntry => exact Run.rawContent_unique h h'
    | _ => exact h.trans (Eq.symm h')

/-- A list of deeds settles what is written. -/
lemma Setting.writesAll_unique {ds : List (Deed κ σ)} (h : s.WritesAll ds data)
    (h' : s.WritesAll ds data') : data = data' := by
  induction ds generalizing data data' with
  | nil => exact h.trans (Eq.symm h')
  | cons d ds ih =>
    obtain ⟨first, rest, rfl, hfirst, hrest⟩ := h
    obtain ⟨first', rest', rfl, hfirst', hrest'⟩ := h'
    rw [writes_unique hfirst hfirst', ih hrest hrest']

end Determined

end ScriptRun
