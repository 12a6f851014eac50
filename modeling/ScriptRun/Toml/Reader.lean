import ScriptRun.Toml.Basic
import ScriptRun.Decimal.Overflow
import ScriptRun.Text.HexDigit

/-!
# Reading TOML

A reader of TOML 1.0. A reader of some part takes characters and gives what it read together with
what follows, or nothing if the part is not there as it should be. Where parts nest, the number of
characters bounds the recursion; besides, a document may not nest too deep.
-/

namespace ScriptRun.Toml

/-- A reader of one part of a document. -/
abbrev Reader (α : Type) := List Char → Option (α × List Char)

/-- Arrays and inline tables nest less deep than this, and a dotted key has fewer parts. -/
def depthLimit : Nat := 80

/-! ### Blanks, comments, line ends -/

/-- Blanks within a line. -/
def isBlank (c : Char) : Bool := c == ' ' || c == '\t'

/-- Characters that may stand in a comment or, save for quotes and backslashes, in a string: no
controls but the tabulator. -/
def isPlain (c : Char) : Bool :=
  c == '\t' || (decide (0x20 ≤ c.toNat) && decide (c.toNat ≠ 0x7F))

/-- Pass over blanks. -/
def skipBlanks (cs : List Char) : List Char := cs.dropWhile isBlank

/-- Pass over a comment, if there is one. -/
def skipComment : List Char → List Char
  | '#' :: rest => rest.dropWhile isPlain
  | cs => cs

/-- Pass over the end of a line. -/
def newline? : List Char → Option (List Char)
  | '\n' :: rest => some rest
  | '\r' :: '\n' :: rest => some rest
  | _ => none

/-- Pass over the rest of a line that holds no more than blanks and a comment. -/
def endLine (cs : List Char) : Option (List Char) :=
  match skipComment (skipBlanks cs) with
  | [] => some []
  | rest => newline? rest

/-- Pass over blanks, line ends and comments, at most `fuel` lines of them. -/
def skipLines : Nat → List Char → List Char
  | 0, cs => cs
  | fuel + 1, cs =>
    let rest := skipComment (skipBlanks cs)
    match newline? rest with
    | some rest => skipLines fuel rest
    | none => rest

/-- Pass over blanks and line ends, at most `fuel` lines of them. -/
def skipEmptyLines : Nat → List Char → List Char
  | 0, cs => cs
  | fuel + 1, cs =>
    match newline? (skipBlanks cs) with
    | some rest => skipEmptyLines fuel rest
    | none => skipBlanks cs

/-! ### Strings -/

/-- Read the character whose code point is written with `n` hexadecimal digits. -/
def readCodePoint (n : Nat) : Reader Char := fun cs =>
  let digits := cs.take n
  if digits.length < n then none
  else
    match digits.mapM Text.hexDigit? with
    | none => none
    | some ds =>
      let code := ds.foldl (fun a d => a * 16 + d) 0
      if code.isValidChar then some (Char.ofNat code, cs.drop n) else none

/-- Read what follows the backslash of an escape. -/
def readEscape : Reader Char
  | 'b' :: rest => some ('\x08', rest)
  | 't' :: rest => some ('\t', rest)
  | 'n' :: rest => some ('\n', rest)
  | 'f' :: rest => some ('\x0c', rest)
  | 'r' :: rest => some ('\r', rest)
  | '"' :: rest => some ('"', rest)
  | '\\' :: rest => some ('\\', rest)
  | 'u' :: rest => readCodePoint 4 rest
  | 'U' :: rest => readCodePoint 8 rest
  | _ => none

/-- Read a string in double quotes, after the first. -/
def readBasic : Nat → Reader (List Char)
  | 0, _ => none
  | fuel + 1, cs =>
    match cs with
    | '"' :: rest => some ([], rest)
    | '\\' :: rest => do
      let (c, rest) ← readEscape rest
      let (s, rest) ← readBasic fuel rest
      pure (c :: s, rest)
    | c :: rest =>
      if isPlain c then (readBasic fuel rest).map fun (s, r) => (c :: s, r) else none
    | [] => none

/-- Read a string in single quotes, after the first. -/
def readLiteral : Reader (List Char)
  | '\'' :: rest => some ([], rest)
  | c :: rest => if isPlain c then (readLiteral rest).map fun (s, r) => (c :: s, r) else none
  | [] => none

/-- Read a string in three double quotes, after the first three. Up to two quotes may stand right
before the last three. A backslash at the end of a line joins it with the next text. -/
def readLongBasic : Nat → Reader (List Char)
  | 0, _ => none
  | fuel + 1, cs =>
    match cs with
    | '"' :: '"' :: '"' :: '"' :: '"' :: rest => some (['"', '"'], rest)
    | '"' :: '"' :: '"' :: '"' :: rest => some (['"'], rest)
    | '"' :: '"' :: '"' :: rest => some ([], rest)
    | '\\' :: rest =>
      match newline? (skipBlanks rest) with
      | some rest => readLongBasic fuel (skipEmptyLines (fuel + 1) rest)
      | none => do
        let (c, rest) ← readEscape rest
        let (s, rest) ← readLongBasic fuel rest
        pure (c :: s, rest)
    | '\r' :: '\n' :: rest => (readLongBasic fuel rest).map fun (s, r) => ('\n' :: s, r)
    | c :: rest =>
      if isPlain c ∨ c = '\n' then (readLongBasic fuel rest).map fun (s, r) => (c :: s, r)
      else none
    | [] => none

/-- Read a string in three single quotes, after the first three. -/
def readLongLiteral : Reader (List Char)
  | '\'' :: '\'' :: '\'' :: '\'' :: '\'' :: rest => some (['\'', '\''], rest)
  | '\'' :: '\'' :: '\'' :: '\'' :: rest => some (['\''], rest)
  | '\'' :: '\'' :: '\'' :: rest => some ([], rest)
  | '\r' :: '\n' :: rest => (readLongLiteral rest).map fun (s, r) => ('\n' :: s, r)
  | c :: rest =>
    if isPlain c ∨ c = '\n' then (readLongLiteral rest).map fun (s, r) => (c :: s, r) else none
  | [] => none

/-- A line end right after three opening quotes is not part of the string. -/
def skipFirstNewline (cs : List Char) : List Char := (newline? cs).getD cs

/-- Read a string of one of the four forms. -/
def readText (cs : List Char) : Option (String × List Char) :=
  let parsed :=
    match cs with
    | '"' :: '"' :: '"' :: rest => readLongBasic (rest.length + 1) (skipFirstNewline rest)
    | '"' :: rest => readBasic (rest.length + 1) rest
    | '\'' :: '\'' :: '\'' :: rest => readLongLiteral (skipFirstNewline rest)
    | '\'' :: rest => readLiteral rest
    | _ => none
  parsed.map fun (s, r) => (String.ofList s, r)

/-! ### Keys -/

/-- The characters of a key without quotes. -/
def isBareKeyChar (c : Char) : Bool := c.isAlphanum || c == '_' || c == '-'

/-- Read a key without dots. -/
def readSimpleKey (cs : List Char) : Option (String × List Char) :=
  match cs with
  | '"' :: rest => (readBasic (rest.length + 1) rest).map fun (s, r) => (String.ofList s, r)
  | '\'' :: rest => (readLiteral rest).map fun (s, r) => (String.ofList s, r)
  | _ =>
    match cs.takeWhile isBareKeyChar with
    | [] => none
    | key => some (String.ofList key, cs.dropWhile isBareKeyChar)

/-- Read the parts of a key and the blanks around them, with dots between them. -/
def readKeyParts : Nat → Reader (List String)
  | 0, _ => none
  | fuel + 1, cs => do
    let (k, rest) ← readSimpleKey (skipBlanks cs)
    match skipBlanks rest with
    | '.' :: rest => (readKeyParts fuel rest).map fun (ks, r) => (k :: ks, r)
    | rest => pure ([k], rest)

/-- Read a key, dotted or not, and the blanks around it. -/
def readKey : Reader (List String) := fun cs =>
  (readKeyParts (cs.length + 1) cs).filter fun (ks, _) => ks.length < depthLimit

/-! ### Numbers, truth values and dates -/

/-- Whether characters are digits with single underscores between them. -/
def areDigits (isDigit : Char → Bool) : List Char → Bool
  | [] => false
  | [c] => isDigit c
  | c :: '_' :: rest => isDigit c && areDigits isDigit rest
  | c :: rest => isDigit c && areDigits isDigit rest

/-- The characters without a sign in front. -/
def unsigned : List Char → List Char
  | '+' :: rest => rest
  | '-' :: rest => rest
  | cs => cs

/-- The number that digits, with underscores between them, stand for. -/
def digitsValue (base : Nat) (cs : List Char) : Nat :=
  (cs.filterMap Text.hexDigit?).foldl (fun a d => a * base + d) 0

/-- Whether characters are decimal digits without a needless zero in front. -/
def isWhole (cs : List Char) : Bool :=
  areDigits Char.isDigit cs && (cs.length == 1 || cs.head? != some '0')

/-- The least number that no integer reaches. Below zero one more is allowed. -/
def integerBound : Nat := 0x8000000000000000

/-- Whether characters are digits to some base, and what they stand for is no larger than integers
are. -/
def isBased (base : Nat) (cs : List Char) : Bool :=
  areDigits (fun c => (Text.hexDigit? c).any fun d => d < base) cs
    && digitsValue base cs < integerBound

/-- Whether characters form an integer of 64 bits. -/
def isInteger (cs : List Char) : Bool :=
  match cs with
  | '0' :: 'x' :: ds => isBased 16 ds
  | '0' :: 'o' :: ds => isBased 8 ds
  | '0' :: 'b' :: ds => isBased 2 ds
  | '-' :: ds => isWhole ds && digitsValue 10 ds ≤ integerBound
  | _ => isWhole (unsigned cs) && digitsValue 10 (unsigned cs) < integerBound

/-- The parts of a floating-point number without a sign: what stands before the point, from the
point on, and from the mark of the exponent on. -/
def floatParts (cs : List Char) : List Char × List Char × List Char :=
  let mantissa := cs.takeWhile fun c => !(c == 'e' || c == 'E')
  let whole := mantissa.takeWhile (· != '.')
  (whole, mantissa.drop whole.length, cs.drop mantissa.length)

/-- Whether characters form a floating-point number. -/
def isFloat (cs : List Char) : Bool :=
  let body := unsigned cs
  if body == "inf".toList || body == "nan".toList then true
  else
    let (whole, fraction, exponent) := floatParts body
    (!exponent.isEmpty || !fraction.isEmpty) && isWhole whole
      && (fraction.isEmpty || areDigits Char.isDigit (fraction.drop 1))
      && (exponent.isEmpty || areDigits Char.isDigit (unsigned (exponent.drop 1)))

/-- Whether a floating-point number is refused because it is too large. One that is as far below
zero is not, nor is an infinity that is written as a word. -/
def isTooLarge (cs : List Char) : Bool :=
  let body := unsigned cs
  if cs.head? == some '-' || body == "inf".toList || body == "nan".toList then false
  else
    let (whole, fraction, exponent) := floatParts body
    let size : Int := digitsValue 10 (unsigned (exponent.drop 1))
    let power := if (exponent.drop 1).head? == some '-' then -size else size
    Decimal.overflows (digitsValue 10 (whole ++ fraction))
      (power - (fraction.filter Char.isDigit).length)

/-- The days of a month. -/
def daysIn (year month : Nat) : Nat :=
  if month = 2 then
    if year % 4 = 0 ∧ (year % 100 ≠ 0 ∨ year % 400 = 0) then 29 else 28
  else if month = 4 ∨ month = 6 ∨ month = 9 ∨ month = 11 then 30
  else 31

/-- Whether characters form a date. -/
def isDate : List Char → Bool
  | [a, b, c, d, '-', e, f, '-', g, h] =>
    let year := digitsValue 10 [a, b, c, d]
    let month := digitsValue 10 [e, f]
    let day := digitsValue 10 [g, h]
    [a, b, c, d, e, f, g, h].all Char.isDigit
      && decide (1 ≤ month ∧ month ≤ 12 ∧ 1 ≤ day ∧ day ≤ daysIn year month)
  | _ => false

/-- Whether characters form a time of day. -/
def isTime : List Char → Bool
  | a :: b :: ':' :: c :: d :: ':' :: e :: f :: rest =>
    [a, b, c, d, e, f].all Char.isDigit
      && decide (digitsValue 10 [a, b] ≤ 23 ∧ digitsValue 10 [c, d] ≤ 59
        ∧ digitsValue 10 [e, f] ≤ 60)
      && match rest with
        | [] => true
        | '.' :: ds => !ds.isEmpty && ds.all Char.isDigit
        | _ => false
  | _ => false

/-- Whether characters form an offset from universal time. -/
def isOffset : List Char → Bool
  | ['Z'] => true
  | ['z'] => true
  | [sign, a, b, ':', c, d] =>
    (sign == '+' || sign == '-') && [a, b, c, d].all Char.isDigit
      && decide (digitsValue 10 [a, b] ≤ 23 ∧ digitsValue 10 [c, d] ≤ 59)
  | _ => false

/-- Whether characters form a date, a time or both, the latter perhaps with an offset. -/
def isDateTime (cs : List Char) : Bool :=
  isDate cs || isTime cs ||
    match cs.drop 10 with
    | mark :: time =>
      let clock := time.takeWhile fun c => c.isDigit || c == ':' || c == '.'
      let offset := time.drop clock.length
      (mark == 'T' || mark == 't' || mark == ' ') && isDate (cs.take 10) && isTime clock
        && (offset.isEmpty || isOffset offset)
    | [] => false

/-- The characters of numbers, truth values and dates. -/
def isScalarChar (c : Char) : Bool :=
  c.isAlphanum || c == '_' || c == '+' || c == '-' || c == '.' || c == ':'

/-- Read a number, a truth value or a date. A blank may part a date from a time. -/
def readPlain (cs : List Char) : Option (Toml × List Char) :=
  let word := cs.takeWhile isScalarChar
  let rest := cs.dropWhile isScalarChar
  let (word, rest) :=
    match rest with
    | ' ' :: tail =>
      let time := tail.takeWhile isScalarChar
      if isDate word && isDateTime (word ++ ' ' :: time) then
        (word ++ ' ' :: time, tail.drop time.length)
      else (word, rest)
    | _ => (word, rest)
  if word == "true".toList || word == "false".toList || isInteger word
      || (isFloat word && !isTooLarge word) || isDateTime word then
    some (plain, rest)
  else none

/-! ### Values -/

mutual

/-- Read a value that stands inside of `depth` arrays and inline tables. -/
def readValue (fuel depth : Nat) : Reader Toml := fun cs =>
  match fuel with
  | 0 => none
  | fuel + 1 =>
    match cs with
    | '"' :: _ => (readText cs).map fun (s, r) => (text s, r)
    | '\'' :: _ => (readText cs).map fun (s, r) => (text s, r)
    | '[' :: rest =>
      if depth + 1 < depthLimit then
        (readItems fuel (depth + 1) rest).map fun (items, r) => (list items, r)
      else none
    | '\x7b' :: rest =>
      if depth + 1 < depthLimit then
        match skipBlanks rest with
        | '\x7d' :: rest => some (table .inline [], rest)
        | rest => (readPairs fuel (depth + 1) [] rest).map fun (es, r) => (table .inline es, r)
      else none
    | _ => readPlain cs

/-- Read the items of a list up to its closing bracket. -/
def readItems (fuel depth : Nat) : Reader (List Toml) := fun cs =>
  match fuel with
  | 0 => none
  | fuel + 1 =>
    match skipLines (fuel + 1) cs with
    | ']' :: rest => some ([], rest)
    | cs => do
      let (v, rest) ← readValue fuel depth cs
      match skipLines (fuel + 1) rest with
      | ',' :: rest =>
        let (vs, rest) ← readItems fuel depth rest
        pure (v :: vs, rest)
      | ']' :: rest => pure ([v], rest)
      | _ => none

/-- Read the pairs of an inline table up to its closing brace, onto those read before. -/
def readPairs (fuel depth : Nat) (es : Entries) : Reader Entries := fun cs =>
  match fuel with
  | 0 => none
  | fuel + 1 => do
    let (keys, rest) ← readKey cs
    match rest with
    | '=' :: rest =>
      let (v, rest) ← readValue fuel depth (skipBlanks rest)
      let es ← setKey v keys es
      match skipBlanks rest with
      | ',' :: rest => readPairs fuel depth es rest
      | '\x7d' :: rest => pure (es, rest)
      | _ => none
    | _ => none

end

/-! ### Documents -/

/-- A document read so far: its entries, and the path of the header that is in force. -/
structure Partial where
  entries : Entries
  header : List String

/-- Read one line with something on it. -/
def readLine (doc : Partial) (cs : List Char) : Option (Partial × List Char) :=
  match cs with
  | '[' :: '[' :: rest => do
    let (keys, rest) ← readKey rest
    match rest, keys.getLast? with
    | ']' :: ']' :: rest, some last =>
      let entries ← within (openElement last) keys.dropLast doc.entries
      let rest ← endLine rest
      pure ({ entries, header := keys }, rest)
    | _, _ => none
  | '[' :: rest => do
    let (keys, rest) ← readKey rest
    match rest, keys.getLast? with
    | ']' :: rest, some last =>
      let entries ← within (openTable last) keys.dropLast doc.entries
      let rest ← endLine rest
      pure ({ entries, header := keys }, rest)
    | _, _ => none
  | _ => do
    let (keys, rest) ← readKey cs
    match rest with
    | '=' :: rest =>
      let (v, rest) ← readValue (rest.length + 1) 0 (skipBlanks rest)
      let entries ← within (setKey v keys) doc.header doc.entries
      let rest ← endLine rest
      pure ({ doc with entries }, rest)
    | _ => none

/-- Read lines to the end of the document. -/
def readLines : Nat → Partial → List Char → Option Entries
  | 0, _, _ => none
  | fuel + 1, doc, cs =>
    match skipLines (fuel + 1) cs with
    | [] => some doc.entries
    | cs =>
      match readLine doc cs with
      | some (doc, rest) => readLines fuel doc rest
      | none => none

/-- Read a document. A byte order mark in front is passed over. -/
def parse? (s : String) : Option Entries :=
  let cs :=
    match s.toList with
    | c :: rest => if c = Char.ofNat 0xFEFF then rest else c :: rest
    | [] => []
  readLines (cs.length + 1) { entries := [], header := [] } cs

end ScriptRun.Toml
