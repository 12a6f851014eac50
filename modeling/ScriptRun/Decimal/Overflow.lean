/-!
# Decimals beyond the finite binary numbers

Rounding to nearest sends a decimal to infinity when no finite binary number is nearer to it than
`2 ^ 1024` would be. Whether that is so is decided without rounding, on the decimal itself.
-/

namespace ScriptRun.Decimal

/-- Halfway from the largest finite number, `(2 ^ 53 - 1) * 2 ^ 971`, to `2 ^ 1024`. A half goes to
the even side, which is the latter. -/
def overflowBound : Nat := (Nat.pow 2 54 - 1) * Nat.pow 2 970

/-- Whether `d * 10 ^ g` is rounded to infinity. The bound lies between `10 ^ 308` and `10 ^ 309`,
so that only a number of that size has to be compared with it, and powers stay small. -/
def overflows (d : Nat) (g : Int) : Bool :=
  let size : Int := (Nat.toDigits 10 d).length + g
  if d = 0 ∨ size < 309 then false
  else if 309 < size then true
  else decide (overflowBound * Nat.pow 10 (-g).toNat ≤ d * Nat.pow 10 g.toNat)

end ScriptRun.Decimal
