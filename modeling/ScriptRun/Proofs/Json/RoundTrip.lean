import Mathlib.Data.List.Basic
import ScriptRun.Json.Reader

/-!
# A written datum reads back

Reading undoes writing, in every layout whose parts are set apart by a comma, a colon and blanks.
So a text stands for one datum only, and the compact and the indented text of a datum stand for the
same one.

A written datum is read with as much fuel as it has characters. What follows it must not go on with
a digit, which would be taken for a part of the number before it.
-/

namespace ScriptRun.Json

/-! ### Blanks -/

lemma skipBlanks_append {gap : List Char} (h : ∀ c ∈ gap, isBlank c = true) (cs : List Char) :
    skipBlanks (gap ++ cs) = skipBlanks cs :=
  List.dropWhile_append_of_pos h

lemma skipBlanks_cons {c : Char} (h : isBlank c = false) (cs : List Char) :
    skipBlanks (c :: cs) = c :: cs := by
  simp [skipBlanks, h]

/-- A layout in which a datum reads back: apart from the comma and the colon there are only
blanks. -/
structure Layout.Readable (l : Layout) : Prop where
  first (d : Nat) : ∀ c ∈ l.first d, isBlank c = true
  next (d : Nat) : ∃ gap, (∀ c ∈ gap, isBlank c = true) ∧ l.next d = ',' :: gap
  last (d : Nat) : ∀ c ∈ l.last d, isBlank c = true
  colon : ∃ gap, (∀ c ∈ gap, isBlank c = true) ∧ l.colon = ':' :: gap

lemma Layout.readable_compact : Layout.compact.Readable where
  first _ := by simp [compact]
  next _ := ⟨[], by simp, rfl⟩
  last _ := by simp [compact]
  colon := ⟨[], by simp, rfl⟩

lemma Layout.readable_indented : Layout.indented.Readable where
  first _ := by simp [indented, isBlank]
  next d := ⟨'\n' :: List.replicate (2 * (d + 1)) ' ', by simp [isBlank], rfl⟩
  last _ := by simp [indented, isBlank]
  colon := ⟨[' '], by simp [isBlank], rfl⟩

/-! ### Strings -/

lemma hexDigit?_digitChar : ∀ n < 16, Text.hexDigit? n.digitChar = some n := by
  decide

lemma hexQuad?_control {n : Nat} (h : n < 0x20) :
    hexQuad? '0' '0' (Nat.digitChar (n / 16)) (Nat.digitChar (n % 16)) = some n := by
  have h0 : Text.hexDigit? '0' = some 0 := rfl
  have h1 := hexDigit?_digitChar (n / 16) (by omega)
  have h2 := hexDigit?_digitChar (n % 16) (by omega)
  simp only [hexQuad?, h0, h1, h2, Option.bind_eq_bind, Option.bind_some, Option.pure_def,
    Option.some.injEq]
  omega

/-- A character is marked by a short escape, by its number, or not at all. -/
lemma escapeChar_cases (c : Char) :
    (∃ e, e ≠ 'u' ∧ shortEscape? e = some c ∧ escapeChar c = ['\\', e]) ∨
      (c.toNat < 0x20 ∧ escapeChar c =
        ['\\', 'u', '0', '0', Nat.digitChar (c.toNat / 16), Nat.digitChar (c.toNat % 16)]) ∨
      (0x20 ≤ c.toNat ∧ c ≠ '"' ∧ c ≠ '\\' ∧ escapeChar c = [c]) := by
  unfold escapeChar
  split
  case h_1 => exact .inl ⟨'"', by decide, rfl, rfl⟩
  case h_2 => exact .inl ⟨'\\', by decide, rfl, rfl⟩
  case h_3 => exact .inl ⟨'n', by decide, rfl, rfl⟩
  case h_4 => exact .inl ⟨'r', by decide, rfl, rfl⟩
  case h_5 => exact .inl ⟨'t', by decide, rfl, rfl⟩
  case h_6 => exact .inl ⟨'b', by decide, rfl, rfl⟩
  case h_7 => exact .inl ⟨'f', by decide, rfl, rfl⟩
  case h_8 hquote hslash _ _ _ _ _ =>
    split
    case isTrue h => exact .inr (.inl ⟨h, rfl⟩)
    case isFalse h => exact .inr (.inr ⟨by omega, hquote, hslash, rfl⟩)

lemma readString_escapeChar (c : Char) (cs : List Char) :
    readString (escapeChar c ++ cs) = (readString cs).map fun (t, r) => (c :: t, r) := by
  rcases escapeChar_cases c with ⟨e, he, hshort, hc⟩ | ⟨hlt, hc⟩ | ⟨hge, hquote, hslash, hc⟩ <;>
    rw [hc]
  · simp only [List.cons_append, List.nil_append]
    rw [readString.eq_3 _ _ (by simpa using fun _ _ _ _ _ h => absurd h he)]
    simp [hshort]
  · simp only [List.cons_append, List.nil_append]
    rw [readString.eq_2]
    simp [hexQuad?_control hlt, show ¬ 0xD800 ≤ c.toNat by omega, show ¬ 0xDC00 ≤ c.toNat by omega]
  · simp only [List.cons_append, List.nil_append]
    rw [readString.eq_4 _ _ (by simpa using hquote) (by simp [hslash]) (by simp [hslash])]
    simp [hslash, show ¬ c.toNat < 0x20 by omega]

lemma readString_quoted (cs rest : List Char) :
    readString (cs.flatMap escapeChar ++ '"' :: rest) = some (cs, rest) := by
  induction cs with
  | nil => simp [readString]
  | cons c cs ih => simp [List.append_assoc, readString_escapeChar, ih]

/-! ### Numbers -/

/-- A text that does not go on with a digit. -/
def Undigital (cs : List Char) : Prop := ∀ c rest, cs = c :: rest → c.isDigit = false

lemma undigital_nil : Undigital [] := nofun

lemma undigital_cons {c : Char} (h : c.isDigit = false) (cs : List Char) : Undigital (c :: cs) := by
  rintro _ _ ⟨⟩
  exact h

lemma not_isBlank_of_isDigit {c : Char} (h : c.isDigit = true) : isBlank c = false := by
  rw [Bool.eq_false_iff]
  intro hblank
  simp only [isBlank, Bool.or_eq_true, beq_iff_eq] at hblank
  rcases hblank with ((rfl | rfl) | rfl) | rfl <;> exact absurd h (by decide)

lemma undigital_append {gap cs : List Char} (hgap : ∀ c ∈ gap, isBlank c = true)
    (hcs : Undigital cs) : Undigital (gap ++ cs) := by
  cases gap with
  | nil => exact hcs
  | cons c gap =>
    refine undigital_cons ?_ _
    cases hc : c.isDigit with
    | false => rfl
    | true => exact absurd (hgap c List.mem_cons_self) (by simp [not_isBlank_of_isDigit hc])

lemma readDigits_append {ds rest : List Char} (hds : ∀ c ∈ ds, c.isDigit = true)
    (hrest : Undigital rest) (n : Nat) :
    readDigits n (ds ++ rest) = (Nat.ofDigitChars 10 ds n, rest) := by
  induction ds generalizing n with
  | nil =>
    cases rest with
    | nil => simp [readDigits]
    | cons c rest => simp [readDigits, hrest c rest rfl]
  | cons d ds ih =>
    obtain ⟨hd, hds⟩ := List.forall_mem_cons.1 hds
    simp [readDigits, hd, ih hds, Nat.ofDigitChars_cons, Nat.mul_comm]

/-- Only zero is written with a zero in front. -/
lemma head?_toDigits {n : Nat} (h : (Nat.toDigits 10 n).head? = some '0') : n = 0 := by
  induction n using Nat.strongRecOn with
  | ind n ih =>
    rcases Nat.lt_or_ge n 10 with hlt | hge
    · simpa [Nat.toDigits_of_lt_base hlt] using h
    · rw [Nat.toDigits_of_base_le (by decide) hge,
        List.head?_append_of_ne_nil _ Nat.toDigits_ne_nil] at h
      have := ih (n / 10) (by omega) h
      omega

lemma exists_toDigits (n : Nat) :
    ∃ d ds, Nat.toDigits 10 n = d :: ds ∧ d.isDigit = true ∧ (d = '0' → n = 0) := by
  obtain ⟨d, ds, h⟩ := List.exists_cons_of_ne_nil (Nat.toDigits_ne_nil (n := n) (b := 10))
  refine ⟨d, ds, h, ?_, fun hd => head?_toDigits (by simp [h, hd])⟩
  exact Nat.isDigit_of_mem_toDigits (b := 10) (by decide) (by decide) (h ▸ List.mem_cons_self)

lemma readValue_toDigits (n fuel : Nat) {rest : List Char} (hrest : Undigital rest) :
    readValue (fuel + 1) (Nat.toDigits 10 n ++ rest) = some (num n, rest) := by
  obtain ⟨c, cs, hn, hc, hzero⟩ := exists_toDigits n
  have hread : readDigits 0 (c :: (cs ++ rest)) = (n, rest) := by
    rw [← List.cons_append, ← hn, readDigits_append (fun _ => Nat.isDigit_of_mem_toDigits
      (by decide) (by decide)) hrest, Nat.ofDigitChars_toDigits (by decide) (by decide)]
  rw [hn, List.cons_append, readValue, skipBlanks_cons (not_isBlank_of_isDigit hc)]
  split
  case h_7 heq =>
    obtain ⟨rfl, rfl⟩ := List.cons.inj heq
    by_cases h0 : c = '0'
    · obtain rfl := hzero h0
      obtain ⟨rfl, rfl⟩ : '0' = c ∧ [] = cs := by simpa using hn
      rfl
    · simp [h0, hc, hread]
  case h_8 heq => exact absurd heq (by simp)
  all_goals
    rename_i heq
    obtain ⟨rfl, -⟩ := List.cons.inj heq
    exact absurd hc (by decide)

/-! ### Reading what was written -/

/-- A written datum starts with a character that is neither a blank nor a closing bracket. -/
lemma exists_write (l : Layout) (d : Nat) (j : Json) :
    ∃ c cs, write l d j = c :: cs ∧ isBlank c = false ∧ c ≠ ']' := by
  match j with
  | null => exact ⟨'n', _, rfl, rfl, by decide⟩
  | bool true => exact ⟨'t', _, rfl, rfl, by decide⟩
  | bool false => exact ⟨'f', _, rfl, rfl, by decide⟩
  | num n =>
    obtain ⟨c, cs, h, hc, -⟩ := exists_toDigits n
    refine ⟨c, cs, by simpa [write] using h, not_isBlank_of_isDigit hc, ?_⟩
    rintro rfl
    exact absurd hc (by decide)
  | str s => exact ⟨'"', _, rfl, rfl, by decide⟩
  | arr [] => exact ⟨'[', _, rfl, rfl, by decide⟩
  | arr (v :: vs) => exact ⟨'[', _, rfl, rfl, by decide⟩
  | obj [] => exact ⟨'\x7b', _, rfl, rfl, by decide⟩
  | obj ((k, v) :: ms) => exact ⟨'\x7b', _, rfl, rfl, by decide⟩

section Gap

variable {gap : List Char} (h : ∀ c ∈ gap, isBlank c = true) (fuel : Nat) (cs : List Char)
include h

lemma readValue_append : readValue fuel (gap ++ cs) = readValue fuel cs := by
  cases fuel with
  | zero => rfl
  | succ fuel => simp only [readValue, skipBlanks_append h]

lemma readItems_append : readItems fuel (gap ++ cs) = readItems fuel cs := by
  cases fuel with
  | zero => rfl
  | succ fuel => simp only [readItems, readValue_append h]

lemma readMembers_append : readMembers fuel (gap ++ cs) = readMembers fuel cs := by
  cases fuel with
  | zero => rfl
  | succ fuel => simp only [readMembers, skipBlanks_append h]

end Gap

section Layout

variable {l : Layout} (hl : l.Readable)
include hl

/-- After an item there is a comma, a blank or the closing bracket. -/
lemma undigital_writeItems (d : Nat) (vs : List Json) (rest : List Char) :
    Undigital (writeItems l d vs ++ (l.last d ++ ']' :: rest)) := by
  cases vs with
  | nil => simpa [writeItems] using undigital_append (hl.last d) (undigital_cons rfl _)
  | cons v vs =>
    obtain ⟨gap, -, hnext⟩ := hl.next d
    simpa [writeItems, hnext] using undigital_cons rfl _

/-- After a member there is a comma, a blank or the closing brace. -/
lemma undigital_writeMembers (d : Nat) (ms : List (String × Json)) (rest : List Char) :
    Undigital (writeMembers l d ms ++ (l.last d ++ '\x7d' :: rest)) := by
  cases ms with
  | nil => simpa [writeMembers] using undigital_append (hl.last d) (undigital_cons rfl _)
  | cons m ms =>
    obtain ⟨gap, -, hnext⟩ := hl.next d
    simpa [writeMembers, hnext] using undigital_cons rfl _

mutual

/-- What is written reads back, with a unit of fuel for each of its characters. -/
theorem readValue_write : ∀ (fuel : Nat) (j : Json) (d : Nat) {rest : List Char},
    (write l d j).length ≤ fuel → Undigital rest →
      readValue fuel (write l d j ++ rest) = some (j, rest)
  | 0, j, d, _, hfuel, _ => by
    obtain ⟨c, cs, hwrite, -⟩ := exists_write l d j
    simp [hwrite] at hfuel
  | _ + 1, null, _, _, _, _ => rfl
  | _ + 1, bool true, _, _, _, _ => rfl
  | _ + 1, bool false, _, _, _, _ => rfl
  | fuel + 1, num n, _, _, _, hrest => by simpa [write] using readValue_toDigits n fuel hrest
  | _ + 1, str s, _, _, _, _ => by
    simp [write, quote, readValue, skipBlanks_cons, isBlank, readString_quoted]
  | _ + 1, arr [], _, _, _, _ => rfl
  | fuel + 1, arr (v :: vs), d, rest, hfuel, _ => by
    simp only [write, List.length_cons, List.length_append] at hfuel
    have hitems := readItems_write fuel v vs d rest (by omega)
    obtain ⟨c, cs, hv, hblank, hclose⟩ := exists_write l (d + 1) v
    simp only [hv, List.cons_append] at hitems
    simp [write, hv, readValue, skipBlanks_cons (show isBlank '[' = false from rfl),
      skipBlanks_append (hl.first d), skipBlanks_cons hblank, hclose,
      readItems_append (hl.first d), hitems]
  | _ + 1, obj [], _, _, _, _ => rfl
  | fuel + 1, obj ((k, v) :: ms), d, rest, hfuel, _ => by
    simp only [write, List.length_cons, List.length_append] at hfuel
    have hmembers := readMembers_write fuel k v ms d rest (by omega)
    simp only [quote, List.cons_append, List.append_assoc, List.nil_append] at hmembers
    simp [write, quote, readValue, skipBlanks_cons, isBlank, skipBlanks_append (hl.first d),
      readMembers_append (hl.first d), hmembers]

/-- The items of a list read back, from behind its opening bracket. -/
theorem readItems_write : ∀ (fuel : Nat) (v : Json) (vs : List Json) (d : Nat) (rest : List Char),
    (write l (d + 1) v).length + (writeItems l d vs).length < fuel →
      readItems fuel (write l (d + 1) v ++ (writeItems l d vs ++ (l.last d ++ ']' :: rest))) =
        some (v :: vs, rest)
  | fuel + 1, v, vs, d, rest, hfuel => by
    have hv := readValue_write fuel v (d + 1) (by omega) (undigital_writeItems hl d vs rest)
    simp only [readItems, hv, Option.bind_eq_bind, Option.bind_some]
    cases vs with
    | nil => simp [writeItems, skipBlanks_append (hl.last d), skipBlanks_cons, isBlank]
    | cons w vs =>
      obtain ⟨gap, hgap, hnext⟩ := hl.next d
      simp only [writeItems, hnext, List.length_append, List.length_cons] at hfuel
      have hitems := readItems_write fuel w vs d rest (by omega)
      simp [writeItems, hnext, skipBlanks_cons, isBlank, readItems_append hgap, hitems]

/-- The members of an object read back, from behind its opening brace. -/
theorem readMembers_write : ∀ (fuel : Nat) (k : String) (v : Json) (ms : List (String × Json))
    (d : Nat) (rest : List Char),
    (write l (d + 1) v).length + (writeMembers l d ms).length < fuel →
      readMembers fuel (quote k ++ (l.colon ++ (write l (d + 1) v ++
          (writeMembers l d ms ++ (l.last d ++ '\x7d' :: rest))))) =
        some ((k, v) :: ms, rest)
  | fuel + 1, k, v, ms, d, rest, hfuel => by
    obtain ⟨gap, hgap, hcolon⟩ := hl.colon
    have hv := readValue_write fuel v (d + 1) (by omega) (undigital_writeMembers hl d ms rest)
    simp only [readMembers, quote, List.cons_append, List.append_assoc, List.nil_append,
      skipBlanks_cons (show isBlank '"' = false from rfl), readString_quoted, hcolon,
      Option.bind_eq_bind, Option.bind_some, skipBlanks_cons (show isBlank ':' = false from rfl),
      readValue_append hgap, hv, String.ofList_toList]
    cases ms with
    | nil => simp [writeMembers, skipBlanks_append (hl.last d), skipBlanks_cons, isBlank]
    | cons m ms =>
      obtain ⟨k', w⟩ := m
      obtain ⟨gap', hgap', hnext⟩ := hl.next d
      simp only [writeMembers, hnext, List.length_append, List.length_cons] at hfuel
      have hmembers := readMembers_write fuel k' w ms d rest (by omega)
      simp only [hcolon, List.cons_append] at hmembers
      simp [writeMembers, hcolon, hnext, skipBlanks_cons, isBlank, readMembers_append hgap',
        hmembers]

end

end Layout

/-! ### Texts -/

lemma parse?_ofList_write {l : Layout} (hl : l.Readable) (j : Json) :
    parse? (String.ofList (write l 0 j)) = some j := by
  have h := readValue_write hl ((write l 0 j).length + 1) j 0 (by omega) undigital_nil
  rw [List.append_nil] at h
  simp [parse?, h, skipBlanks]

/-- The compact text of a datum reads back. -/
theorem parse?_toCompact (j : Json) : parse? j.toCompact = some j :=
  parse?_ofList_write Layout.readable_compact j

/-- The indented text of a datum reads back. -/
theorem parse?_toIndented (j : Json) : parse? j.toIndented = some j :=
  parse?_ofList_write Layout.readable_indented j

end ScriptRun.Json
