/-!
# Type names at their use

Where a type name is used it need not be the name of a declared type: three words stand for a type
by its relation to the place.
-/

namespace ScriptRun

/-- What a type name stands for where it is used. -/
inductive TypeMention where
  | self
  | parent
  | static
  | named (name : String)
  deriving DecidableEq

/-- Three names, in any case, stand for no declared type. -/
def TypeMention.ofName (name : String) : TypeMention :=
  match String.ofList (name.toList.map Char.toLower) with
  | "self" => .self
  | "parent" => .parent
  | "static" => .static
  | _ => .named name

end ScriptRun
