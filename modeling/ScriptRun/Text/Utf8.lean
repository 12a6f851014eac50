/-!
# Reading bytes as text

Bytes are cut into pieces: a piece is one character, or a stretch of bytes that no character can
begin with any further. Reading strictly needs every piece to be a character; reading leniently
puts the replacement character for each of the others.
-/

namespace ScriptRun.Text

/-- What the bytes up to some point amount to. -/
inductive Piece where
  | char (c : Char)
  | malformed

/-- What a character's first byte asks for: how many bytes follow, the bounds of the first of
them, and the bits that this byte contributes. -/
def lead? (b : UInt8) : Option (Nat × UInt8 × UInt8 × Nat) :=
  let n := b.toNat
  if n < 0x80 then some (0, 0, 0, n)
  else if n < 0xC2 then none
  else if n < 0xE0 then some (1, 0x80, 0xBF, n - 0xC0)
  else if n = 0xE0 then some (2, 0xA0, 0xBF, 0)
  else if n = 0xED then some (2, 0x80, 0x9F, 13)
  else if n < 0xF0 then some (2, 0x80, 0xBF, n - 0xE0)
  else if n = 0xF0 then some (3, 0x90, 0xBF, 0)
  else if n < 0xF4 then some (3, 0x80, 0xBF, n - 0xF0)
  else if n = 0xF4 then some (3, 0x80, 0x8F, 4)
  else none

/-- Read `want` further bytes, the first of them between `low` and `high`. The answer tells how
many were taken, and the code point if none was missing. -/
def follow (want : Nat) (low high : UInt8) (code : Nat) : List UInt8 → Nat × Option Nat
  | [] => (0, if want = 0 then some code else none)
  | b :: rest =>
    match want with
    | 0 => (0, some code)
    | want + 1 =>
      if low ≤ b ∧ b ≤ high then
        let (taken, done) := follow want 0x80 0xBF (code * 64 + (b.toNat - 0x80)) rest
        (taken + 1, done)
      else (0, none)

/-- The piece that starts with byte `b`, and how many of the bytes after it belong to it. -/
def piece (b : UInt8) (rest : List UInt8) : Piece × Nat :=
  match lead? b with
  | none => (.malformed, 0)
  | some (want, low, high, code) =>
    match follow want low high code rest with
    | (taken, some code) => (.char (Char.ofNat code), taken)
    | (taken, none) => (.malformed, taken)

/-- Cut bytes into pieces. -/
def pieces : List UInt8 → List Piece
  | [] => []
  | b :: rest => (piece b rest).1 :: pieces (rest.drop (piece b rest).2)
termination_by bytes => bytes.length
decreasing_by simp only [List.length_cons, List.length_drop]; omega

/-- The character of a piece, if it is one. -/
def Piece.char? : Piece → Option Char
  | .char c => some c
  | .malformed => none

/-- Read bytes leniently: each malformed stretch becomes one replacement character. -/
def decodeLossy (bytes : List UInt8) : String :=
  String.ofList ((pieces bytes).map fun p => p.char?.getD (Char.ofNat 0xFFFD))

/-- Read bytes strictly. -/
def decode? (bytes : List UInt8) : Option String :=
  ((pieces bytes).mapM Piece.char?).map String.ofList

/-- The bytes of a text. -/
def encode (s : String) : List UInt8 := s.toUTF8.toList

end ScriptRun.Text
