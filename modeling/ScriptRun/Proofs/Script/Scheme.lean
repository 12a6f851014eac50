import ScriptRun.Proofs.Script.Spelling
import ScriptRun.Proofs.Run.RawInclusion
import Mathlib.Data.String.Basic

/-!
# Schemes

No scheme has a colon in it, so the first `://` of a path is the one behind its scheme, whatever is
behind that in turn. What a scheme is asked for is shorter than the path it was cut off from. So a
path leads somewhere or nowhere, and not round in circles, if handlers resolve no other path than the
one they are asked for.
-/

namespace ScriptRun

variable {κ σ : Type}

namespace Path

/-- What may stand before the `://` of a path. -/
structure IsScheme (s : String) : Prop where
  two_le_length : 2 ≤ s.length
  chars : ∀ c ∈ s.toList, ('A' ≤ c ∧ c ≤ 'Z') ∨ ('a' ≤ c ∧ c ≤ 'z') ∨ ('0' ≤ c ∧ c ≤ '9') ∨
    c = '+' ∨ c = '-' ∨ c = '.'

variable {scheme rest path : String}

lemma isAlphanum_iff {c : Char} :
    c.isAlphanum = true ↔ ('A' ≤ c ∧ c ≤ 'Z') ∨ ('a' ≤ c ∧ c ≤ 'z') ∨ ('0' ≤ c ∧ c ≤ '9') := by
  delta Char.isAlphanum Char.isAlpha Char.isUpper Char.isLower Char.isDigit
  simp only [Bool.or_eq_true, Bool.and_eq_true, decide_eq_true_eq, or_assoc, Char.le_def, ge_iff_le]

lemma isSchemeChar_iff {c : Char} :
    isSchemeChar c = true ↔ ('A' ≤ c ∧ c ≤ 'Z') ∨ ('a' ≤ c ∧ c ≤ 'z') ∨ ('0' ≤ c ∧ c ≤ '9') ∨
      c = '+' ∨ c = '-' ∨ c = '.' := by
  simp only [isSchemeChar, Bool.or_eq_true, beq_iff_eq, isAlphanum_iff, or_assoc]

lemma isScheme_iff {scheme : List Char} :
    IsScheme (String.ofList scheme) ↔ 1 < scheme.length ∧ scheme.all isSchemeChar = true := by
  rw [List.all_eq_true]
  simp only [isSchemeChar_iff]
  constructor
  · rintro ⟨hlength, hchars⟩
    rw [String.length_ofList] at hlength
    rw [String.toList_ofList] at hchars
    exact ⟨hlength, hchars⟩
  · rintro ⟨hlength, hchars⟩
    exact ⟨by rwa [String.length_ofList], by rwa [String.toList_ofList]⟩

lemma IsScheme.colon_notMem (h : IsScheme scheme) : ':' ∉ scheme.toList := by
  intro hcolon
  have hchar := isSchemeChar_iff.2 (h.chars ':' hcolon)
  cases hchar

lemma cutAtMark_append {scheme : List Char} (h : ':' ∉ scheme) (rest : List Char) :
    cutAtMark (scheme ++ ':' :: '/' :: '/' :: rest) = some (scheme, rest) := by
  induction scheme with
  | nil => rfl
  | cons c scheme ih =>
    obtain ⟨hc, hscheme⟩ := not_or.1 (mt List.mem_cons.2 h)
    rw [List.cons_append, cutAtMark, ih hscheme]
    · rfl
    · rintro tail rfl
      exact absurd rfl hc

lemma toList_mark (scheme rest : String) :
    (scheme ++ "://" ++ rest).toList = scheme.toList ++ ':' :: '/' :: '/' :: rest.toList := by
  rw [String.toList_append, String.toList_append, List.append_assoc]
  rfl

/-- Just the paths that begin with a scheme and `://` are cut, and they are cut there. -/
lemma cutScheme?_eq_some_iff :
    cutScheme? path = some (scheme, rest) ↔ IsScheme scheme ∧ path = scheme ++ "://" ++ rest := by
  rw [cutScheme?]
  constructor
  · intro h
    cases hcut : cutAtMark path.toList with
    | none =>
      rw [hcut] at h
      cases h
    | some cut =>
      obtain ⟨cs, tail⟩ := cut
      rw [hcut] at h
      dsimp only at h
      split at h
      case isTrue hscheme =>
        cases h
        refine ⟨isScheme_iff.2 hscheme, String.toList_inj.1 ?_⟩
        rw [toList_mark, String.toList_ofList, String.toList_ofList, eq_of_cutAtMark hcut]
      case isFalse => cases h
  · rintro ⟨hscheme, rfl⟩
    rw [toList_mark, cutAtMark_append hscheme.colon_notMem]
    rw [← String.ofList_toList (s := scheme), isScheme_iff] at hscheme
    simp only [if_pos hscheme, String.ofList_toList]

lemma cutScheme?_mark (h : IsScheme scheme) (rest : String) :
    cutScheme? (scheme ++ "://" ++ rest) = some (scheme, rest) :=
  cutScheme?_eq_some_iff.2 ⟨h, rfl⟩

lemma length_le_utf8ByteSize (s : String) : s.length ≤ s.utf8ByteSize := by
  rw [← String.length_toList, ← String.utf8Len_toList]
  induction s.toList with
  | nil => exact Nat.le_refl 0
  | cons c cs ih =>
    rw [List.length_cons, String.utf8Len_cons]
    exact Nat.add_le_add ih c.utf8Size_pos

/-- Cutting a scheme off takes its two characters at least, and the mark. -/
lemma size_le_of_cutScheme? (h : cutScheme? path = some (scheme, rest)) :
    rest.utf8ByteSize + 5 ≤ path.utf8ByteSize := by
  obtain ⟨hscheme, rfl⟩ := cutScheme?_eq_some_iff.1 h
  have hmark : "://".utf8ByteSize = 3 := by decide
  have hlength := hscheme.two_le_length
  have hsize := length_le_utf8ByteSize scheme
  rw [String.utf8ByteSize_append, String.utf8ByteSize_append, hmark]
  omega

end Path

/-! ### Handlers -/

/-- A search resolves no path but one, from whatever directories. -/
inductive Search.Relays (path : String) : Search κ σ → Prop
  | done (result : Found κ) : Relays path (.done result)
  | look {next : Run κ σ → Search κ σ} (h : ∀ r, Relays path (next r)) : Relays path (.look next)
  | act (f : σ → σ) {next : Search κ σ} (h : Relays path next) : Relays path (.act f next)
  | resolve (dir : Option String) {next : Found κ → Search κ σ}
    (h : ∀ found, Relays path (next found)) : Relays path (.resolve path dir next)

/-- All handlers of the application look up what they like, and otherwise resolve the path that they
are asked for. -/
def Setting.Relays (s : Setting κ σ) : Prop :=
  ∀ scheme handler, s.app.handler? scheme = some handler →
    ∀ dir rest, (s.search handler dir rest).Relays rest

section Ends

variable {s : Setting κ σ}

/-- From some depth on a path leads to one answer, and nothing but the world has changed then. -/
def Setting.EndsFrom (s : Setting κ σ) (depth : Nat) (path : String) : Prop :=
  ∀ dir r, ∃ found w, ∀ fuel, depth ≤ fuel →
    Run.resolveScript s fuel path dir r = some (found, { r with world := w })

lemma Search.Relays.ends {depth : Nat} {path : String} (hpath : s.EndsFrom depth path)
    {search : Search κ σ} (h : search.Relays path) (r : Run κ σ) :
    ∃ found w, ∀ fuel, depth ≤ fuel →
      Run.search (Run.resolveScript s fuel) search r = some (found, { r with world := w }) := by
  induction h generalizing r with
  | done result => exact ⟨result, r.world, fun _ _ => rfl⟩
  | look h ih => exact ih r r
  | act f h ih => exact ih { r with world := f r.world }
  | resolve dir h ih =>
    obtain ⟨found, w, hres⟩ := hpath dir r
    obtain ⟨found', w', hnext⟩ := ih found { r with world := w }
    refine ⟨found', w', fun fuel hfuel => ?_⟩
    rw [Run.search, hres fuel hfuel]
    exact hnext fuel hfuel

/-- Each scheme that is cut off takes five bytes, so a path has as many at most as its size allows. -/
lemma Setting.Relays.endsFrom (hs : s.Relays) (path : String) :
    s.EndsFrom (path.utf8ByteSize / 5) path := by
  induction hn : path.utf8ByteSize using Nat.strongRecOn generalizing path with
  | ind n ih =>
    intro dir r
    cases hcut : Path.cutScheme? path with
    | none =>
      exact ⟨_, r.world, fun fuel _ => resolveScript_of_no_scheme hcut fuel dir r⟩
    | some cut =>
      obtain ⟨scheme, rest⟩ := cut
      have hsize := Path.size_le_of_cutScheme? hcut
      cases hhandler : s.app.handler? scheme with
      | none =>
        exact ⟨_, r.world, fun fuel _ => resolveScript_of_unknown hcut hhandler⟩
      | some handler =>
        have hrest := ih rest.utf8ByteSize (by omega) rest rfl
        obtain ⟨found, w, hsearch⟩ := (hs scheme handler hhandler dir rest).ends hrest r
        refine ⟨found, w, fun fuel hfuel => ?_⟩
        cases fuel with
        | zero => omega
        | succ fuel =>
          rw [Run.resolveScript, hcut]
          simp only [hhandler]
          exact hsearch fuel (by omega)

end Ends

/-- A path is cut exactly if it begins with a scheme and `://`, which it does in one way, and it is
cut there. What is left is five bytes shorter at least. So if handlers resolve no other path than the
one that they are asked for, every path leads somewhere or nowhere, with handlers nested no deeper
than a fifth of its bytes. -/
theorem scheme_cut_off :
    (∀ path scheme rest, Path.cutScheme? path = some (scheme, rest) ↔
      Path.IsScheme scheme ∧ path = scheme ++ "://" ++ rest) ∧
    (∀ scheme rest scheme' rest', Path.IsScheme scheme → Path.IsScheme scheme' →
      scheme ++ "://" ++ rest = scheme' ++ "://" ++ rest' → scheme = scheme' ∧ rest = rest') ∧
    (∀ path scheme rest, Path.cutScheme? path = some (scheme, rest) →
      rest.utf8ByteSize + 5 ≤ path.utf8ByteSize) ∧
    ∀ s : Setting κ σ, s.Relays → ∀ path dir r, ∃ found w, ∀ fuel, path.utf8ByteSize / 5 ≤ fuel →
      Run.resolveScript s fuel path dir r = some (found, { r with world := w }) := by
  refine ⟨fun path scheme rest => Path.cutScheme?_eq_some_iff, ?_,
    fun path scheme rest => Path.size_le_of_cutScheme?, fun s hs path => hs.endsFrom path⟩
  intro scheme rest scheme' rest' h h' heq
  have hcut := Path.cutScheme?_mark h rest
  rw [heq, Path.cutScheme?_mark h' rest', Option.some.injEq, Prod.mk.injEq] at hcut
  exact ⟨hcut.1.symm, hcut.2.symm⟩

/-! ### A handler that passes on -/

/-- One scheme, whose handler resolves again what it is asked for. -/
def Setting.relayed : Setting Unit Nat :=
  { Setting.lone "/srv" with
    app := { (Setting.lone "/srv").app with schemes := [("res", ())] }
    search := fun _ dir rest => .resolve rest dir .done }

/-- Schemes before a path are passed on one after the other, until the path is reached. -/
theorem scheme_cut_off_twice :
    Setting.relayed.Relays ∧
      Run.resolveScript Setting.relayed 3 "res://RES://pages/x" none
          (Setting.relayed.start none 0) =
        some (.ok (some ⟨0, "pages/x", ()⟩), Setting.relayed.start none 0) := by
  have hrelays : Setting.relayed.Relays :=
    fun _ _ _ dir rest => .resolve dir fun found => .done found
  refine ⟨hrelays, ?_⟩
  obtain ⟨-, -, -, hends⟩ := scheme_cut_off (κ := Unit) (σ := Nat)
  obtain ⟨found, w, hends⟩ :=
    hends _ hrelays "res://RES://pages/x" none (Setting.relayed.start none 0)
  rw [hends 3 (by decide), ← hends 5 (by decide)]
  rfl

end ScriptRun
