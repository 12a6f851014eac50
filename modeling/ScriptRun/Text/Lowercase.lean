import ScriptRun.Text.CaseTable

/-!
# Lower case

The full lower-case form of a text. Every character is mapped by itself, except that a capital
sigma at the end of a word becomes the final sigma: a cased character stands before it and none
after it, where the characters that are passed over do not count.
-/

namespace ScriptRun.Text

/-- Whether a character lies in one of some ranges of code points. -/
def inRanges (ranges : List (Nat × Nat)) (c : Char) : Bool :=
  ranges.any fun (first, last) => decide (first ≤ c.toNat) && decide (c.toNat ≤ last)

/-- Passed over when the surroundings of a letter are looked at. -/
def isCaseIgnorable (c : Char) : Bool := inRanges caseIgnorableRanges c

/-- Upper, lower or title case. -/
def isCased (c : Char) : Bool := inRanges casedRanges c

/-- The lower-case form of a character by itself. The dotted capital I keeps its dot as a mark. -/
def lowerChar (c : Char) : List Char :=
  if c.toNat < 128 then [c.toLower]
  else if c.toNat = 0x130 then ['i', Char.ofNat 0x307]
  else
    match capitals.find? fun r =>
        decide (r.first ≤ c.toNat) && decide (c.toNat ≤ r.last)
          && (c.toNat - r.first) % r.stride == 0 with
    | some r => [Char.ofNat (Int.toNat (c.toNat + r.shift))]
    | none => [c]

/-- Whether the first character that is not passed over has a case. -/
def meetsCased (cs : List Char) : Bool :=
  match cs.dropWhile isCaseIgnorable with
  | c :: _ => isCased c
  | [] => false

/-- The lower-case form of what follows `before`, which is kept last character first. -/
def lowerAfter (before : List Char) : List Char → List Char
  | [] => []
  | c :: rest =>
    let form :=
      if c.toNat = 0x3A3 then
        [if meetsCased before && !meetsCased rest then Char.ofNat 0x3C2 else Char.ofNat 0x3C3]
      else lowerChar c
    form ++ lowerAfter (c :: before) rest

/-- The lower-case form of a text. -/
def lowercase (s : String) : String := String.ofList (lowerAfter [] s.toList)

/-- The lower-case form in which only ASCII letters change. -/
def lowercaseAscii (s : String) : String := String.ofList (s.toList.map Char.toLower)

end ScriptRun.Text
