/-!
# JSON data and their texts

The data that diagnostics are exchanged as, with a compact and an indented way of writing them.
Numbers are natural numbers, as no other kind is exchanged.
-/

namespace ScriptRun

/-- A datum. Members keep their order. -/
inductive Json where
  | null
  | bool (b : Bool)
  | num (n : Nat)
  | str (s : String)
  | arr (items : List Json)
  | obj (members : List (String × Json))
  deriving Inhabited

namespace Json

/-! ### Writing -/

/-- A character as it stands in a string. Only quotes, backslashes and the controls below the
space are marked. -/
def escapeChar (c : Char) : List Char :=
  match c with
  | '"' => ['\\', '"']
  | '\\' => ['\\', '\\']
  | '\n' => ['\\', 'n']
  | '\r' => ['\\', 'r']
  | '\t' => ['\\', 't']
  | '\x08' => ['\\', 'b']
  | '\x0c' => ['\\', 'f']
  | c =>
    if c.toNat < 0x20 then
      ['\\', 'u', '0', '0', Nat.digitChar (c.toNat / 16), Nat.digitChar (c.toNat % 16)]
    else [c]

/-- A text as a string. -/
def quote (s : String) : List Char := '"' :: (s.toList.flatMap escapeChar ++ ['"'])

/-- How the parts of a list or an object are set apart: what stands before the first part, between
two parts, after the last one, and after the name of a member, by the depth. -/
structure Layout where
  first : Nat → List Char
  next : Nat → List Char
  last : Nat → List Char
  colon : List Char

/-- Nothing but the marks. -/
def Layout.compact : Layout := ⟨fun _ => [], fun _ => [','], fun _ => [], [':']⟩

/-- One part a line, two blanks deeper than what holds it. -/
def Layout.indented : Layout :=
  let line (depth : Nat) : List Char := '\n' :: List.replicate (2 * depth) ' '
  ⟨fun d => line (d + 1), fun d => ',' :: line (d + 1), line, [':', ' ']⟩

mutual

/-- A datum in a layout, at a depth. -/
def write (l : Layout) (depth : Nat) : Json → List Char
  | null => "null".toList
  | bool b => if b then "true".toList else "false".toList
  | num n => Nat.toDigits 10 n
  | str s => quote s
  | arr [] => ['[', ']']
  | arr (v :: vs) =>
    '[' :: (l.first depth ++ write l (depth + 1) v
      ++ writeItems l depth vs ++ l.last depth ++ [']'])
  | obj [] => ['\x7b', '\x7d']
  | obj ((k, v) :: ms) =>
    '\x7b' :: (l.first depth ++ quote k ++ l.colon ++ write l (depth + 1) v
      ++ writeMembers l depth ms ++ l.last depth ++ ['\x7d'])

/-- The further items of a list. -/
def writeItems (l : Layout) (depth : Nat) : List Json → List Char
  | [] => []
  | v :: vs => l.next depth ++ write l (depth + 1) v ++ writeItems l depth vs

/-- The further members of an object. -/
def writeMembers (l : Layout) (depth : Nat) : List (String × Json) → List Char
  | [] => []
  | (k, v) :: ms =>
    l.next depth ++ quote k ++ l.colon ++ write l (depth + 1) v ++ writeMembers l depth ms

end

/-- A datum without blanks. -/
def toCompact (j : Json) : String := String.ofList (write .compact 0 j)

/-- A datum with one part a line. -/
def toIndented (j : Json) : String := String.ofList (write .indented 0 j)

end Json

end ScriptRun
