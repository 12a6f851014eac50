import ScriptRun.Proofs.Run.Inclusion
import Mathlib.Data.List.Perm.Subperm

/-!
# Executions

How often scripts are executed on the way from one state of a run to a later one, where each of them
is executed at its first inclusion only: every execution takes a script from those that are not
marked, so there are no more executions than such scripts.

How deep calls nest is bounded, and code that comes to an end has the same answer whatever the bound
once it is high enough (`Settles`).
-/

namespace ScriptRun

open Relation

variable {κ σ : Type} {s : Setting κ σ} {r r' r'' : Run κ σ}

/-! ### Calls that end -/

/-- From some depth on a call has this answer. -/
def Settles {α : Type} (call : Nat → Option α) (a : α) : Prop :=
  ∃ depth, ∀ n, depth ≤ n → call n = some a

namespace Settles

variable {α β : Type} {call : Nat → Option α} {a : α}

lemma of_forall (h : ∀ n, call n = some a) : Settles call a := ⟨0, fun n _ => h n⟩

lemma unique {b : α} (h : Settles call a) (h' : Settles call b) : a = b := by
  obtain ⟨depth, h⟩ := h
  obtain ⟨depth', h'⟩ := h'
  exact Option.some.inj
    ((h _ (Nat.le_max_left depth depth')).symm.trans (h' _ (Nat.le_max_right depth depth')))

lemma exists_eq (h : Settles call a) : ∃ n, call n = some a := by
  obtain ⟨depth, h⟩ := h
  exact ⟨depth, h depth (Nat.le_refl depth)⟩

/-- A call that is made one level further down. -/
lemma succ {outer : Nat → Option α} (h : Settles call a) (hs : ∀ n, outer (n + 1) = call n) :
    Settles outer a := by
  obtain ⟨depth, h⟩ := h
  refine ⟨depth + 1, fun n hn => ?_⟩
  cases n with
  | zero => cases hn
  | succ n => rw [hs, h n (Nat.le_of_succ_le_succ hn)]

lemma imp {whole : Nat → Option β} {b : β} (h : Settles call a)
    (hs : ∀ n, call n = some a → whole n = some b) : Settles whole b := by
  obtain ⟨depth, h⟩ := h
  exact ⟨depth, fun n hn => hs n (h n hn)⟩

lemma map (h : Settles call a) (f : α → β) : Settles (fun n => (call n).map f) (f a) :=
  h.imp fun _ hn => Option.map_eq_some_iff.2 ⟨a, hn, rfl⟩

lemma after {rest whole : Nat → Option β} {b : β} (h : Settles call a) (hrest : Settles rest b)
    (hs : ∀ n, call n = some a → whole n = rest n) : Settles whole b := by
  obtain ⟨depth, h⟩ := h
  obtain ⟨depth', hrest⟩ := hrest
  refine ⟨max depth depth', fun n hn => ?_⟩
  rw [hs n (h n (by omega)), hrest n (by omega)]

end Settles

/-! ### Executions -/

/-- The place of the script whose execution begins with an event. -/
def Event.script? : Event κ → Option Nat
  | .began (.script i) => some i
  | _ => none

/-- The places of the scripts that have been executed, in their order. -/
def Run.executed (r : Run κ σ) : List Nat := r.events.filterMap Event.script?

/-- The scripts that are not marked. -/
def Setting.unmarked (s : Setting κ σ) (r : Run κ σ) : List (ScriptUnit κ) :=
  s.app.scripts.units.filter fun u => r.isNew u

lemma Setting.mem_unmarked {u : ScriptUnit κ} :
    u ∈ s.unmarked r ↔ u ∈ s.app.scripts.units ∧ r.included.has u = false := by
  rw [unmarked, List.mem_filter, Run.isNew, Bool.not_eq_true']

lemma Moves.has {u : ScriptUnit κ} (h : Moves s r r') (hu : r.included.has u = true) :
    r'.included.has u = true :=
  List.contains_iff_mem.2 (h.marks_subset (List.contains_iff_mem.1 hu))

lemma Moves.unmarked_subset (h : Moves s r r') : s.unmarked r' ⊆ s.unmarked r := by
  intro u hu
  obtain ⟨hmem, hfree⟩ := Setting.mem_unmarked.1 hu
  refine Setting.mem_unmarked.2 ⟨hmem, Bool.eq_false_iff.2 fun hmarked => ?_⟩
  rw [h.has hmarked] at hfree
  cases hfree

lemma Setting.index_ne_of_mem_unmarked {u v : ScriptUnit κ} (hu : r.included.has u = true)
    (hv : v ∈ s.unmarked r) : v.index ≠ u.index := by
  intro h
  have hfree := (Setting.mem_unmarked.1 hv).2
  rw [Included.has, h, ← Included.has, hu] at hfree
  cases hfree

/-- On the way from one state to another just these scripts have been executed, in their order and
each of them once. They had no mark before, and have one now. -/
structure Executes (s : Setting κ σ) (r r' : Run κ σ) (us : List (ScriptUnit κ)) : Prop where
  moves : Moves s r r'
  executed : r'.executed = r.executed ++ us.map (·.index)
  once : (us.map (·.index)).Nodup
  unmarked : us ⊆ s.unmarked r
  marked : ∀ u ∈ us, r'.included.has u = true

namespace Executes

variable {us vs : List (ScriptUnit κ)}

lemma none (h : Moves s r r') (he : r'.executed = r.executed) : Executes s r r' [] where
  moves := h
  executed := he.trans (List.append_nil _).symm
  once := .nil
  unmarked := List.nil_subset _
  marked := nofun

lemma trans (h : Executes s r r' us) (h' : Executes s r' r'' vs) : Executes s r r'' (us ++ vs) where
  moves := h.moves.trans h'.moves
  executed := by rw [h'.executed, h.executed, List.map_append, List.append_assoc]
  once := by
    -- what is executed later has no mark then, so it is none of those before
    rw [List.map_append]
    refine h.once.append h'.once fun i hi hi' => ?_
    obtain ⟨u, hu, rfl⟩ := List.mem_map.1 hi
    obtain ⟨v, hv, hindex⟩ := List.mem_map.1 hi'
    exact Setting.index_ne_of_mem_unmarked (h.marked u hu) (h'.unmarked hv) hindex
  unmarked :=
    List.append_subset.2 ⟨h.unmarked, List.Subset.trans h'.unmarked h.moves.unmarked_subset⟩
  marked := fun u hu => (List.mem_append.1 hu).elim (fun hu => h'.moves.has (h.marked u hu))
    (h'.marked u)

/-- Every execution takes one script from those without a mark. -/
lemma length_add_le (ht : s.app.scripts.Declared) (h : Executes s r r' us) :
    us.length + (s.unmarked r').length ≤ (s.unmarked r).length := by
  rw [← List.length_append]
  refine (List.Nodup.subperm ?_ ?_).length_le
  · refine (h.once.of_map _).append (ht.nodup.filter _) fun u hu hu' => ?_
    exact Setting.index_ne_of_mem_unmarked (h.marked u hu) hu' rfl
  · exact List.append_subset.2 ⟨h.unmarked, h.moves.unmarked_subset⟩

lemma length_le (h : Executes s r r' us) : us.length ≤ (s.unmarked r).length :=
  ((h.once.of_map _).subperm h.unmarked).length_le

end Executes

lemma executes_entered {u : ScriptUnit κ} {w : σ} (hd : r.isDisposed = false)
    (hu : u ∈ s.unmarked r) : Executes s r (({ r with world := w } : Run κ σ).entered u) [u] := by
  obtain ⟨hmoves, hmarked, hevents, -⟩ := entered_spec (r := { r with world := w }) s u hd
  refine ⟨.head (.change (.world w)) hmoves, ?_, List.nodup_singleton _,
    List.cons_subset.2 ⟨hu, List.nil_subset _⟩, fun v hv => List.mem_singleton.1 hv ▸ hmarked⟩
  rw [Run.executed, hevents, List.filterMap_append]
  rfl

end ScriptRun
