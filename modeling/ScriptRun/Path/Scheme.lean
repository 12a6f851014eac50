/-!
# Scheme paths

A path such as `res://index` names a scheme and what the scheme is asked for. The scheme has at
least two characters, all of them ASCII letters, digits, `+`, `-` or `.`: a single letter is a
drive. Only the first `://` is looked at.
-/

namespace ScriptRun.Path

/-- Whether a character may stand in a scheme. -/
def isSchemeChar (c : Char) : Bool := c.isAlphanum || c == '+' || c == '-' || c == '.'

/-- Cut characters at the first `://`. -/
def cutAtMark : List Char → Option (List Char × List Char)
  | [] => none
  | ':' :: '/' :: '/' :: rest => some ([], rest)
  | c :: rest => (cutAtMark rest).map fun (scheme, tail) => (c :: scheme, tail)

/-- The scheme of a path and what follows its `://`. -/
def cutScheme? (path : String) : Option (String × String) :=
  match cutAtMark path.toList with
  | some (scheme, rest) =>
    if 1 < scheme.length ∧ scheme.all isSchemeChar then
      some (String.ofList scheme, String.ofList rest)
    else none
  | none => none

end ScriptRun.Path
