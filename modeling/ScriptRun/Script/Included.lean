import ScriptRun.Script.Catalog

/-!
# Which scripts have been included

A run remembers the scripts that it has included, by their indices. A mark is never taken off.
-/

namespace ScriptRun

variable {κ : Type}

/-- The scripts that have been included, by index, the latest first. -/
structure Included where
  marks : List Nat

namespace Included

/-- Nothing has been included. -/
def none : Included := ⟨[]⟩

/-- Whether a script has been included. -/
def has (s : Included) (u : ScriptUnit κ) : Bool := s.marks.contains u.index

/-- Mark a script as included. -/
def mark (s : Included) (u : ScriptUnit κ) : Included :=
  if s.has u then s else ⟨u.index :: s.marks⟩

@[simp] theorem mem_marks_mark (s : Included) (u : ScriptUnit κ) (i : Nat) :
    i ∈ (s.mark u).marks ↔ i = u.index ∨ i ∈ s.marks := by
  by_cases h : u.index ∈ s.marks
  · simp only [mark, has, List.contains_eq_mem, h, decide_true, if_true]
    exact ⟨.inr, fun | .inl e => e ▸ h | .inr m => m⟩
  · simp [mark, has, h]

/-- The scripts of a catalog that have been included, in its order. -/
def listed (s : Included) (t : ScriptCatalog κ) : List (ScriptUnit κ) := t.units.filter s.has

end Included

end ScriptRun
