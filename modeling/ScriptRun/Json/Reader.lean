import ScriptRun.Json.Printer
import ScriptRun.Text.HexDigit

/-!
# Reading JSON texts

A reader for the data that are exchanged. It takes any spelling that JSON allows: blanks between the
parts, escapes of either kind, members in any order.
-/

namespace ScriptRun.Json

/-- The four blanks. -/
def isBlank (c : Char) : Bool := c == ' ' || c == '\n' || c == '\r' || c == '\t'

/-- The number that four hexadecimal digits stand for. -/
def hexQuad? (a b c d : Char) : Option Nat := do
  let a ← Text.hexDigit? a
  let b ← Text.hexDigit? b
  let c ← Text.hexDigit? c
  let d ← Text.hexDigit? d
  pure (((a * 16 + b) * 16 + c) * 16 + d)

/-- The character that an escape with a short name stands for. -/
def shortEscape? : Char → Option Char
  | '"' => some '"'
  | '\\' => some '\\'
  | '/' => some '/'
  | 'n' => some '\n'
  | 'r' => some '\r'
  | 't' => some '\t'
  | 'b' => some '\x08'
  | 'f' => some '\x0c'
  | _ => none

/-- Read the rest of a string after its opening quote: its characters and what follows. -/
def readString : List Char → Option (List Char × List Char)
  | '"' :: rest => some ([], rest)
  | '\\' :: 'u' :: a :: b :: c :: d :: rest =>
    match hexQuad? a b c d with
    | none => none
    | some n =>
      if 0xD800 ≤ n ∧ n < 0xDC00 then
        match rest with
        | '\\' :: 'u' :: e :: f :: g :: h :: rest =>
          match hexQuad? e f g h with
          | none => none
          | some m =>
            if 0xDC00 ≤ m ∧ m < 0xE000 then
              (readString rest).map fun (cs, r) =>
                (Char.ofNat (0x10000 + (n - 0xD800) * 0x400 + (m - 0xDC00)) :: cs, r)
            else none
        | _ => none
      else if 0xDC00 ≤ n ∧ n < 0xE000 then none
      else (readString rest).map fun (cs, r) => (Char.ofNat n :: cs, r)
  | '\\' :: c :: rest =>
    match shortEscape? c with
    | none => none
    | some c => (readString rest).map fun (cs, r) => (c :: cs, r)
  | c :: rest =>
    if c.toNat < 0x20 ∨ c = '\\' then none
    else (readString rest).map fun (cs, r) => (c :: cs, r)
  | [] => none

/-- Read digits onto a number. -/
def readDigits (n : Nat) : List Char → Nat × List Char
  | c :: rest =>
    if c.isDigit then readDigits (n * 10 + (c.toNat - '0'.toNat)) rest else (n, c :: rest)
  | [] => (n, [])

/-- Pass over blanks. -/
def skipBlanks (cs : List Char) : List Char := cs.dropWhile isBlank

mutual

/-- Read a datum. Every call spends one unit of `fuel`; as many as there are characters suffice. -/
def readValue : Nat → List Char → Option (Json × List Char)
  | 0, _ => none
  | fuel + 1, cs =>
    match skipBlanks cs with
    | 'n' :: 'u' :: 'l' :: 'l' :: rest => some (null, rest)
    | 't' :: 'r' :: 'u' :: 'e' :: rest => some (bool true, rest)
    | 'f' :: 'a' :: 'l' :: 's' :: 'e' :: rest => some (bool false, rest)
    | '"' :: rest => (readString rest).map fun (s, r) => (str (String.ofList s), r)
    | '[' :: rest =>
      match skipBlanks rest with
      | ']' :: rest => some (arr [], rest)
      | _ => (readItems fuel rest).map fun (vs, r) => (arr vs, r)
    | '\x7b' :: rest =>
      match skipBlanks rest with
      | '\x7d' :: rest => some (obj [], rest)
      | _ => (readMembers fuel rest).map fun (ms, r) => (obj ms, r)
    | c :: rest =>
      if c = '0' then some (num 0, rest)
      else if c.isDigit then
        let (n, r) := readDigits 0 (c :: rest)
        some (num n, r)
      else none
    | [] => none

/-- Read the items of a list up to its closing bracket. -/
def readItems : Nat → List Char → Option (List Json × List Char)
  | 0, _ => none
  | fuel + 1, cs => do
    let (v, rest) ← readValue fuel cs
    match skipBlanks rest with
    | ',' :: rest =>
      let (vs, rest) ← readItems fuel rest
      pure (v :: vs, rest)
    | ']' :: rest => pure ([v], rest)
    | _ => none

/-- Read the members of an object up to its closing brace. -/
def readMembers : Nat → List Char → Option (List (String × Json) × List Char)
  | 0, _ => none
  | fuel + 1, cs =>
    match skipBlanks cs with
    | '"' :: rest => do
      let (k, rest) ← readString rest
      match skipBlanks rest with
      | ':' :: rest =>
        let (v, rest) ← readValue fuel rest
        match skipBlanks rest with
        | ',' :: rest =>
          let (ms, rest) ← readMembers fuel rest
          pure ((String.ofList k, v) :: ms, rest)
        | '\x7d' :: rest => pure ([(String.ofList k, v)], rest)
        | _ => none
      | _ => none
    | _ => none

end

/-- Read a text that holds one datum and nothing else. -/
def parse? (s : String) : Option Json :=
  match readValue (s.length + 1) s.toList with
  | some (j, rest) => if skipBlanks rest = [] then some j else none
  | none => none

/-- The member of an object with a name. -/
def member? (j : Json) (name : String) : Option Json :=
  match j with
  | obj ms => (ms.find? (·.1 == name)).map (·.2)
  | _ => none

/-- The text a datum is, if it is one. -/
def asStr? : Json → Option String
  | str s => some s
  | _ => none

/-- The number a datum is, if it is one. -/
def asNum? : Json → Option Nat
  | num n => some n
  | _ => none

end ScriptRun.Json
