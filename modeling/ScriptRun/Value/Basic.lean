import ScriptRun.Value.Binary64

/-!
# Script values

What a script computes with: `null`, truth values, 64-bit integers, floating-point numbers, text
and arrays of values.

Equality is structural, with two exceptions that both come from floating point: a NaN equals
nothing, and the two zeros are equal. An integer never equals a floating-point number.
-/

namespace ScriptRun

/-- A value of the scripting language. -/
inductive Value where
  | null
  | bool (b : Bool)
  | int (i : Int64)
  | float (x : Binary64)
  | str (s : String)
  | array (items : List Value)
  deriving Inhabited

namespace Value

/-- The name scripts know the kind of a value by. -/
def typeName : Value → String
  | .null => "null"
  | .bool _ => "bool"
  | .int _ => "int"
  | .float _ => "float"
  | .str _ => "string"
  | .array _ => "array"

/-- Only the truth value itself is true: there are no conversions. -/
def isTrue : Value → Bool
  | .bool b => b
  | _ => false

/-- Only the truth value itself is false. -/
def isFalse : Value → Bool
  | .bool b => !b
  | _ => false

/-- The integer a value is, if it is one. -/
def asInt? : Value → Option Int64
  | .int i => some i
  | _ => none

/-- The text a value is, if it is one. -/
def asStr? : Value → Option String
  | .str s => some s
  | _ => none

mutual

/-- Equality of two values as scripts see it. -/
def same : Value → Value → Bool
  | .null, .null => true
  | .bool a, .bool b => a == b
  | .int a, .int b => a == b
  | .float a, .float b => a.same b
  | .str a, .str b => a == b
  | .array as, .array bs => sameItems as bs
  | _, _ => false

/-- Equality of two lists of values, item by item. -/
def sameItems : List Value → List Value → Bool
  | [], [] => true
  | a :: as, b :: bs => same a b && sameItems as bs
  | _, _ => false

end

end Value

end ScriptRun
