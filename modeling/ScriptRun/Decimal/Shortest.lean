/-!
# The shortest decimal that reads back

Rounding to nearest sends a whole interval of numbers to one binary number. Of the decimals in
that interval the one with the fewest digits is written, and of several with equally many digits
the nearest; a decimal half a unit away on either side goes up.

The interval is kept as three fractions over one denominator, so that every test is an inequality
between natural numbers.
-/

namespace ScriptRun.Decimal

/-- The numbers that round to one binary number: the fractions `low`, `mid` and `high` over the
denominator `den`, of which `mid` is the number itself. The ends belong to the interval when it is
`closed`. -/
structure Interval where
  low : Nat
  mid : Nat
  high : Nat
  den : Nat
  closed : Bool

/-- The interval of `m * 2 ^ q`. The gap below is half as wide when `m` is the least significand
of its binade, which is what `narrow` says. Ends round to an even significand. -/
def Interval.ofBinary (m : Nat) (q : Int) (narrow : Bool) : Interval :=
  let up := Nat.pow 2 (q - 2).toNat
  { low := (4 * m - if narrow then 1 else 2) * up
    mid := 4 * m * up
    high := (4 * m + 2) * up
    den := Nat.pow 2 (2 - q).toNat
    closed := m % 2 == 0 }

/-- Comparison with an end of the interval, which counts if the interval is closed. -/
def Interval.below (i : Interval) (a b : Nat) : Bool :=
  if i.closed then a ≤ b else a < b

/-- The multiple `d` of `10 ^ g` that lies in the interval and is nearest to its middle, if there
is one. Only the two neighbours of the middle need to be looked at: a point of the grid further
away lies in the interval only if the neighbour on its side does. -/
def Interval.onGrid (i : Interval) (g : Int) : Option Nat :=
  let scale := Nat.pow 10 (-g).toNat
  let unit := Nat.pow 10 g.toNat * i.den
  let d := i.mid * scale / unit
  let rest := i.mid * scale % unit
  let down := i.below (i.low * scale) (d * unit)
  let up := i.below ((d + 1) * unit) (i.high * scale)
  match down, up with
  | true, true => some (if unit ≤ 2 * rest then d + 1 else d)
  | true, false => some d
  | false, true => some (d + 1)
  | false, false => none

/-- The coarsest decimal grid with a point in the interval, and that point. Grids are tried from
`10 ^ 309`, above every finite number, down to one finer than the least gap between two. -/
def Interval.shortest (i : Interval) : Nat × Int :=
  ((List.range 700).findSome? fun (k : Nat) =>
    let g : Int := 309 - k
    (i.onGrid g).map fun d => (d, g)).getD (0, 0)

/-- The digits of `d * 10 ^ g` in positional notation, without an exponent and without a fraction
that is zero. -/
def positional (d : Nat) (g : Int) : List Char :=
  let digits := Nat.toDigits 10 d
  let places := (-g).toNat
  if places = 0 then digits ++ List.replicate g.toNat '0'
  else
    let padded := List.replicate (places + 1 - digits.length) '0' ++ digits
    padded.take (padded.length - places) ++ '.' :: padded.drop (padded.length - places)

end ScriptRun.Decimal
