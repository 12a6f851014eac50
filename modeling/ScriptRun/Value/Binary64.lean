/-!
# Binary floating point, by its bits

A script's floating-point number is never computed with here: it is stored, compared and written.
It is therefore its 64-bit pattern, and comparison is the IEEE 754 relation spelled out on that
pattern. All of it is decidable, and nothing hangs on the machine's arithmetic.
-/

namespace ScriptRun

/-- A binary64 number, given by its bit pattern. -/
structure Binary64 where
  bits : UInt64
  deriving DecidableEq, Inhabited

namespace Binary64

/-- The sign bit. -/
def isNegative (x : Binary64) : Bool := x.bits.toNat.testBit 63

/-- The eleven exponent bits, still biased. -/
def exponentField (x : Binary64) : Nat := x.bits.toNat / 0x10000000000000 % 0x800

/-- The fifty-two fraction bits. -/
def fractionField (x : Binary64) : Nat := x.bits.toNat % 0x10000000000000

/-- An exponent of ones with a fraction marks the absence of a number. -/
def isNaN (x : Binary64) : Bool := x.exponentField == 2047 && x.fractionField != 0

/-- An exponent of ones without a fraction marks an infinity. -/
def isInfinite (x : Binary64) : Bool := x.exponentField == 2047 && x.fractionField == 0

/-- Both zeros: no bit is set besides the sign. -/
def isZero (x : Binary64) : Bool := x.exponentField == 0 && x.fractionField == 0

/-- IEEE equality: no number equals a NaN, the two zeros are equal, and otherwise equality is
that of the bits. -/
def same (x y : Binary64) : Bool :=
  !x.isNaN && !y.isNaN && (x == y || (x.isZero && y.isZero))

/-- The significand `m` and exponent `q` of a finite number, whose magnitude is `m * 2 ^ q`. -/
def magnitude (x : Binary64) : Nat × Int :=
  if x.exponentField = 0 then (x.fractionField, -1074)
  else (0x10000000000000 + x.fractionField, x.exponentField - 1075)

end Binary64

end ScriptRun
