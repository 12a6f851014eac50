/-!
# TOML documents

The data of a TOML document. Settings are texts and lists of texts, so numbers, truth values and
dates are told apart from these but not from each other.

A table remembers how it came about, since that decides what may still be added to it: under a
header, on the way to the table of another header, by a dotted key, or written inline.
-/

namespace ScriptRun

namespace Toml

/-- How a table came about. -/
inductive Origin where
  | header
  | implied
  | dotted
  | inline
  deriving DecidableEq

end Toml

/-- A datum of a TOML document. -/
inductive Toml where
  | text (s : String)
  /-- A number, a truth value or a date. -/
  | plain
  | list (items : List Toml)
  | table (origin : Toml.Origin) (entries : List (String × Toml))
  /-- The tables of an array of tables. -/
  | tables (elements : List (List (String × Toml)))

namespace Toml

/-- The entries of a table. -/
abbrev Entries := List (String × Toml)

/-- The datum under a key. -/
def find? (es : Entries) (key : String) : Option Toml := (es.find? (·.1 == key)).map (·.2)

/-- Put a datum in the place of the one under a key. -/
def replace (es : Entries) (key : String) (v : Toml) : Entries :=
  es.map fun e => if e.1 == key then (key, v) else e

/-- Change the last of some tables. -/
def changeLast (f : Entries → Option Entries) : List Entries → Option (List Entries)
  | [] => none
  | [e] => (f e).map fun e => [e]
  | e :: rest => (changeLast f rest).map (e :: ·)

/-- Change the table that a header's path leads to, through the last table of every array. Tables
on the way that are missing are implied. -/
def within (f : Entries → Option Entries) : List String → Entries → Option Entries
  | [], es => f es
  | k :: ks, es =>
    match find? es k with
    | none => (within f ks []).map fun sub => es ++ [(k, table .implied sub)]
    | some (table .inline _) => none
    | some (table origin sub) =>
      (within f ks sub).map fun sub => replace es k (table origin sub)
    | some (tables elements) =>
      (changeLast (within f ks) elements).map fun elements => replace es k (tables elements)
    | some _ => none

/-- Open the table that a header names in the table before it. Only a table that was implied may be
there already. -/
def openTable (key : String) (es : Entries) : Option Entries :=
  match find? es key with
  | none => some (es ++ [(key, table .header [])])
  | some (table .implied sub) => some (replace es key (table .header sub))
  | some _ => none

/-- Open a further table of an array of tables. -/
def openElement (key : String) (es : Entries) : Option Entries :=
  match find? es key with
  | none => some (es ++ [(key, tables [[]])])
  | some (tables elements) => some (replace es key (tables (elements ++ [[]])))
  | some _ => none

/-- Set a key, which may be dotted. No key is set twice, and a dotted key adds only to tables that
dotted keys made. -/
def setKey (v : Toml) : List String → Entries → Option Entries
  | [], _ => none
  | [k], es => if (find? es k).isSome then none else some (es ++ [(k, v)])
  | k :: ks, es =>
    match find? es k with
    | none => (setKey v ks []).map fun sub => es ++ [(k, table .dotted sub)]
    | some (table .dotted sub) => (setKey v ks sub).map fun sub => replace es k (table .dotted sub)
    | some (table .implied sub) =>
      if ks.length = 1 then none
      else (setKey v ks sub).map fun sub => replace es k (table .implied sub)
    | some _ => none

end Toml

end ScriptRun
