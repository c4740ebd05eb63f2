import GameFixes.Json.Value

/-!
# Reading JSON

A strict reader: no byte order mark, no text after the value, no control characters in strings.
Arrays can also be read as far as they are well-formed, for readers that decode items one by one.
-/

namespace GameFixes.Json

/-- The characters that may stand between the tokens. -/
def isSpace (c : Char) : Bool := c == ' ' || c == '\n' || c == '\t' || c == '\r'

/-- A text from its next token on. -/
def skipSpace (s : List Char) : List Char := s.dropWhile isSpace

/-- The value of a hexadecimal digit of either case. -/
def hexValue? (c : Char) : Option Nat :=
  if '0' ≤ c ∧ c ≤ '9' then some (c.toNat - '0'.toNat)
  else if 'a' ≤ c ∧ c ≤ 'f' then some (c.toNat - 'a'.toNat + 10)
  else if 'A' ≤ c ∧ c ≤ 'F' then some (c.toNat - 'A'.toNat + 10)
  else none

/-- The number that four hexadecimal digits spell. -/
def hex4? (a b c d : Char) : Option Nat := do
  return (((← hexValue? a) * 16 + (← hexValue? b)) * 16 + (← hexValue? c)) * 16 + (← hexValue? d)

/-- The character that a backslash and a letter stand for. -/
def unescape? (c : Char) : Option Char :=
  match c with
  | '"' => some '"'
  | '\\' => some '\\'
  | '/' => some '/'
  | 'b' => some '\x08'
  | 'f' => some '\x0c'
  | 'n' => some '\n'
  | 'r' => some '\r'
  | 't' => some '\t'
  | _ => none

/-- A string read so far: its text, unless it has a lone surrogate, and what follows it. -/
abbrev StringRest := Option (List Char) × List Char

/-- Puts characters in front of a string; `none` stands for a lone surrogate. -/
def StringRest.push (cs : Option (List Char)) (r : StringRest) : StringRest :=
  (cs.bind fun cs => r.1.map (cs ++ ·), r.2)

/-- The text of something that must not follow the first half of a surrogate pair. -/
def alone (high : Option Nat) (cs : List Char) : Option (List Char) :=
  if high.isSome then none else some cs

/-- The text that the code unit `n` adds after the first half `high` of a pair, and the first half
that it is itself. -/
def unitText (high : Option Nat) (n : Nat) : Option (List Char) × Option Nat :=
  if 0xD800 ≤ n ∧ n < 0xDC00 then (alone high [], some n)
  else if 0xDC00 ≤ n ∧ n < 0xE000 then
    (high.map fun h => [Char.ofNat (0x10000 + (h - 0xD800) * 0x400 + (n - 0xDC00))], none)
  else (alone high [Char.ofNat n], none)

/-- Reads a string from behind its opening quote on; `high` is the first half of a surrogate pair
when the text before spells one. -/
def readString : (high : Option Nat) → List Char → Option StringRest
  | _, [] => none
  | high, '"' :: s => some (alone high [], s)
  | high, '\\' :: 'u' :: a :: b :: c :: d :: s =>
    match hex4? a b c d with
    | none => none
    | some n => (readString (unitText high n).2 s).map (StringRest.push (unitText high n).1)
  | high, '\\' :: c :: s =>
    match unescape? c with
    | none => none
    | some e => (readString none s).map (StringRest.push (alone high [e]))
  | high, c :: s =>
    if c.toNat < 0x20 ∨ c = '\\' then none
    else (readString none s).map (StringRest.push (alone high [c]))

/-- Reads one digit or more. -/
def readDigits? (s : List Char) : Option (List Char × List Char) :=
  match s.span Char.isDigit with
  | ([], _) => none
  | r => some r

/-- Reads the whole part of a number: no digit follows a leading zero. -/
def readWhole? : List Char → Option (List Char × List Char)
  | '0' :: s => some (['0'], s)
  | s => readDigits? s

/-- Reads what may follow the whole part: a point and digits. -/
def readFraction? : List Char → Option (List Char × List Char)
  | '.' :: s => (readDigits? s).map fun (d, r) => ('.' :: d, r)
  | s => some ([], s)

/-- Reads what may end a number: an exponent. -/
def readExponent? : List Char → Option (List Char × List Char)
  | e :: s =>
    if e = 'e' ∨ e = 'E' then
      match s with
      | '+' :: s => (readDigits? s).map fun (d, r) => (e :: '+' :: d, r)
      | '-' :: s => (readDigits? s).map fun (d, r) => (e :: '-' :: d, r)
      | s => (readDigits? s).map fun (d, r) => (e :: d, r)
    else some ([], e :: s)
  | [] => some ([], [])

/-- Reads a number. -/
def readNumber? (s : List Char) : Option (Value × List Char) := do
  let (sign, s) := match s with
    | '-' :: s => (['-'], s)
    | s => ([], s)
  let (whole, s) ← readWhole? s
  let (fraction, s) ← readFraction? s
  let (exponent, s) ← readExponent? s
  return (.number (String.ofList (sign ++ whole ++ fraction ++ exponent)), s)

/-- Reads a string at its opening quote. -/
def readText? : List Char → Option (Option String × List Char)
  | '"' :: s => (readString none s).map fun (t, r) => (t.map String.ofList, r)
  | _ => none

mutual

/-- Reads a value; `fuel` bounds the calls of the three readers below one another. -/
def readValue : (fuel : Nat) → List Char → Option (Value × List Char)
  | 0, _ => none
  | fuel + 1, s =>
    match skipSpace s with
    | 'n' :: 'u' :: 'l' :: 'l' :: s => some (.null, s)
    | 't' :: 'r' :: 'u' :: 'e' :: s => some (.bool true, s)
    | 'f' :: 'a' :: 'l' :: 's' :: 'e' :: s => some (.bool false, s)
    | '"' :: s => (readText? ('"' :: s)).map fun (t, r) => (.string t, r)
    | '[' :: s =>
      match skipSpace s with
      | ']' :: s => some (.array [], s)
      | s =>
        match readItems fuel s with
        | (l, some r) => some (.array l, r)
        | (_, none) => none
    | '{' :: s =>
      match skipSpace s with
      | '}' :: s => some (.object [], s)
      | s => (readMembers fuel s).map fun (l, r) => (.object l, r)
    | s => readNumber? s

/-- Reads the items of an array, up to the first that is not well-formed; without one, also what
follows the closing bracket. -/
def readItems : (fuel : Nat) → List Char → List Value × Option (List Char)
  | 0, _ => ([], none)
  | fuel + 1, s =>
    match readValue fuel s with
    | none => ([], none)
    | some (v, s) =>
      match skipSpace s with
      | ',' :: s => let (l, r) := readItems fuel s; (v :: l, r)
      | ']' :: s => ([v], some s)
      | _ => ([v], none)

/-- Reads the members of an object and its closing brace. -/
def readMembers : (fuel : Nat) → List Char → Option (List (Option String × Value) × List Char)
  | 0, _ => none
  | fuel + 1, s =>
    match readText? (skipSpace s) with
    | none => none
    | some (k, s) =>
      match skipSpace s with
      | ':' :: s =>
        match readValue fuel s with
        | none => none
        | some (v, s) =>
          match skipSpace s with
          | ',' :: s => (readMembers fuel s).map fun (l, r) => ((k, v) :: l, r)
          | '}' :: s => some ([(k, v)], s)
          | _ => none
      | _ => none

end

/-- Enough fuel for a text: between two characters at most two readers call one another. -/
def fuelFor (s : List Char) : Nat := 2 * s.length + 2

/-- The value of a JSON text. -/
def read? (s : String) : Option Value :=
  match readValue (fuelFor s.toList) s.toList with
  | some (v, r) => if (skipSpace r).isEmpty then some v else none
  | none => none

/-- The items of a JSON text that is an array, up to the first fault in the text, and whether there
is no fault. A text that does not start an array has none. -/
def readArray? (s : String) : Option (List Value × Bool) :=
  match skipSpace s.toList with
  | '[' :: s =>
    match skipSpace s with
    | ']' :: s => some ([], (skipSpace s).isEmpty)
    | s =>
      match readItems (fuelFor s) s with
      | (l, some r) => some (l, (skipSpace r).isEmpty)
      | (l, none) => some (l, false)
  | _ => none

end GameFixes.Json
