import ScriptRun.Value.Basic

/-!
# Bindings

Bindings give variables their values. They are kept as a list with one entry per name; the order
of the entries carries no meaning, and equality does not look at it.
-/

namespace ScriptRun

/-- Variables with their values. -/
structure Bindings where
  entries : List (String × Value)
  /-- No variable is listed twice. -/
  distinct : (entries.map (·.1)).Nodup

namespace Bindings

/-- No variable is set. -/
def empty : Bindings := ⟨[], .nil⟩

instance : Inhabited Bindings := ⟨.empty⟩

/-- The value of a variable. -/
def get? (l : Bindings) (name : String) : Option Value :=
  (l.entries.find? (·.1 == name)).map (·.2)

/-- Whether a variable is set. -/
def contains (l : Bindings) (name : String) : Bool := (l.get? name).isSome

/-- Unset a variable. -/
def erase (l : Bindings) (name : String) : Bindings :=
  ⟨l.entries.filter (·.1 != name), l.distinct.sublist (List.filter_sublist.map _)⟩

/-- Set a variable. -/
def insert (l : Bindings) (name : String) (v : Value) : Bindings where
  entries := (l.erase name).entries ++ [(name, v)]
  distinct := by
    have h := (l.erase name).distinct
    rw [List.map_append, List.nodup_append]
    refine ⟨h, by simp, fun a ha b hb => ?_⟩
    simp only [erase, List.mem_map, List.mem_filter, bne_iff_ne] at ha
    obtain ⟨e, ⟨_, he⟩, rfl⟩ := ha
    simp only [List.map_cons, List.map_nil, List.mem_singleton] at hb
    exact hb ▸ he

/-- Set variables in turn. -/
def ofList (entries : List (String × Value)) : Bindings :=
  entries.foldl (fun l (name, v) => l.insert name v) .empty

theorem get?_erase (l : Bindings) (name other : String) :
    (l.erase name).get? other = if other = name then none else l.get? other := by
  unfold get? erase
  rw [List.find?_filter]
  split
  · next h => simp [h]
  · next h =>
    congr 2
    funext e
    by_cases he : e.1 = other <;> simp [he, h]

theorem get?_insert (l : Bindings) (name other : String) (v : Value) :
    (l.insert name v).get? other = if other = name then some v else l.get? other := by
  have h := get?_erase l name other
  unfold get? at h ⊢
  simp only [insert, List.find?_append, Option.map_or, h]
  by_cases e : other = name
  · simp [e]
  · simp [e, Ne.symm e]

/-- How many variables are set. -/
def size (l : Bindings) : Nat := l.entries.length

/-- Equality of bindings: the same names, with equal values. -/
def same (a b : Bindings) : Bool :=
  a.size == b.size && a.entries.all fun (name, v) =>
    match b.get? name with
    | some w => v.same w
    | none => false

end Bindings

end ScriptRun
