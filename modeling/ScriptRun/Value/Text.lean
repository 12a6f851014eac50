import ScriptRun.Value.Basic
import ScriptRun.Decimal.Shortest

/-!
# Values as text

The text a value has when it is written out. Numbers are written in full, never with an exponent;
a floating-point number has the fewest digits that read back, and no fraction when it is whole.
-/

namespace ScriptRun

/-- The text of a floating-point number. -/
def Binary64.toText (x : Binary64) : String :=
  if x.isNaN then "NaN"
  else
    let sign := if x.isNegative then "-" else ""
    if x.isInfinite then sign ++ "inf"
    else if x.isZero then sign ++ "0"
    else
      let (m, q) := x.magnitude
      let narrow := x.fractionField == 0 && decide (1 < x.exponentField)
      let (d, g) := (Decimal.Interval.ofBinary m q narrow).shortest
      sign ++ String.ofList (Decimal.positional d g)

namespace Value

mutual

/-- The text of a value. Text inside an array is not quoted. -/
def toText : Value → String
  | .null => "null"
  | .bool b => if b then "true" else "false"
  | .int i => toString i.toInt
  | .float x => x.toText
  | .str s => s
  | .array items => "[" ++ itemsText items ++ "]"

/-- The texts of some values, with a comma and a blank between them. -/
def itemsText : List Value → String
  | [] => ""
  | [v] => toText v
  | v :: w :: rest => toText v ++ ", " ++ itemsText (w :: rest)

end

end Value

end ScriptRun
