import ScriptRun.Proofs.Path.Segments
import Mathlib.Logic.Relation

/-!
# Spellings of a path

A path can be spelled otherwise: with the other separator in some place, with more or fewer segments
that are empty or `.`, and with more or fewer detours into a name and out again by `..`. None of this
changes what the path does to a stack of segments, whichever stack it is read onto. So two spellings
of a relative path agree below every base, also where the path begins with `..` and takes segments of
the base off.
-/

namespace ScriptRun.Path

open Relation

/-- A path and another spelling of it, which differs in one place. -/
inductive Respelled (p q : String) : Prop
  | separator {before after : List Char} {c d : Char} (hc : isSeparator c = true)
    (hd : isSeparator d = true) (hp : p.toList = before ++ c :: after)
    (hq : q.toList = before ++ d :: after)
  | idle {before after : List (List Char)} {piece : List Char}
    (hpiece : piece = [] ∨ piece = ['.']) (hp : pieces isSeparator p.toList = before ++ after)
    (hq : pieces isSeparator q.toList = before ++ piece :: after)
  | detour {before after : List (List Char)} {name : String} (hname : IsSegment name)
    (hp : pieces isSeparator p.toList = before ++ after)
    (hq : pieces isSeparator q.toList = before ++ name.toList :: ['.', '.'] :: after)

lemma push_idle {piece : List Char} (h : piece = [] ∨ piece = ['.']) (stack : List String) :
    push stack piece = stack := if_pos h

lemma push_up (stack : List String) : push stack ['.', '.'] = stack.dropLast := by
  simp [push]

/-- A segment that is taken off again leaves the stack as it was. -/
lemma push_detour {name : String} (h : IsSegment name) (stack : List String) :
    push (push stack name.toList) ['.', '.'] = stack := by
  rw [push_of_isSegment h, push_up, List.dropLast_concat]

variable {p q : String}

lemma Respelled.readOnto_eq (h : Respelled p q) (stack : List String) :
    readOnto stack p.toList = readOnto stack q.toList := by
  cases h with
  | separator hc hd hp hq =>
    rw [hp, hq, readOnto_append_cons hc, readOnto_append_cons hd]
  | idle hpiece hp hq =>
    rw [readOnto, readOnto, hp, hq]
    simp only [List.foldl_append, List.foldl_cons, push_idle hpiece]
  | detour hname hp hq =>
    rw [readOnto, readOnto, hp, hq]
    simp only [List.foldl_append, List.foldl_cons, push_detour hname]

/-- Spellings of one path do the same to every stack. -/
theorem readOnto_eq_of_respelled (h : EqvGen Respelled p q) (stack : List String) :
    readOnto stack p.toList = readOnto stack q.toList := by
  induction h with
  | rel _ _ h => exact h.readOnto_eq stack
  | refl _ => rfl
  | symm _ _ _ ih => exact ih.symm
  | trans _ _ _ _ _ ih ih' => exact ih.trans ih'

lemma segments_eq_of_respelled (h : EqvGen Respelled p q) : segments p = segments q :=
  readOnto_eq_of_respelled h []

lemma segments_under_of_respelled (h : EqvGen Respelled p q) (base : String) :
    segments (under base p) = segments (under base q) := by
  rw [segments_under, segments_under, readOnto_eq_of_respelled h]

end ScriptRun.Path
