import GameFixes.Database.Value

/-!
# Tokens

The words, names, texts, numbers and marks that a definition or a statement is made of.
-/

namespace GameFixes.Database

/-- A part of a statement. -/
inductive Token
  | word (s : String)
  /-- A name in quotation marks; in double ones it may be a text. -/
  | name (s : String) (isDouble : Bool)
  | text (s : String)
  | blob (bytes : List UInt8)
  | number (s : String)
  | mark (s : String)
  deriving DecidableEq, Repr

namespace Token

/-- Whether a word can go on with a character. -/
def isWordChar (c : Char) : Bool := c.isAlphanum || c = '_' || c = '$' || 0x80 ≤ c.toNat

/-- What stands between quotation marks, of which two stand for one, and what follows. -/
def quoted? (close : Char) : List Char → Option (List Char × List Char)
  | [] => none
  | c :: s =>
    if c = close then
      match s with
      | d :: s' =>
        if d = close && close ≠ ']' then (quoted? close s').map fun (q, rest) => (c :: q, rest)
        else some ([], s)
      | [] => some ([], [])
    else (quoted? close s).map fun (q, rest) => (c :: q, rest)

/-- The bytes that hexadecimal digits spell. -/
def bytesOfHex? : List Char → Option (List UInt8)
  | [] => some []
  | a :: b :: s => do
    let digit? (c : Char) : Option Nat :=
      let c := c.toLower
      if c.isDigit then some (c.toNat - 48)
      else if 'a' ≤ c && c ≤ 'f' then some (c.toNat - 87) else none
    return (16 * (← digit? a) + (← digit? b)).toUInt8 :: (← bytesOfHex? s)
  | [_] => none

/-- What follows a comment that ends with `*/`. -/
def afterComment : List Char → List Char
  | '*' :: '/' :: s => s
  | _ :: s => afterComment s
  | [] => []

/-- The characters of a number and what follows. -/
def numberChars (s : List Char) : List Char × List Char :=
  match s with
  | '0' :: x :: t =>
    if x.toLower = 'x' then
      let d := t.takeWhile Char.isAlphanum
      ('0' :: x :: d, t.drop d.length)
    else decimal s
  | _ => decimal s
where
  /-- Digits, a point and an exponent. -/
  decimal (s : List Char) : List Char × List Char :=
    let front := s.takeWhile Char.isDigit
    let s := s.drop front.length
    let back := if s.head? = some '.' then '.' :: (s.drop 1).takeWhile Char.isDigit else []
    let s := s.drop back.length
    let sign := match s.drop 1 with
      | c :: _ => if c = '+' || c = '-' then [c] else []
      | [] => []
    let digits := (s.drop (1 + sign.length)).takeWhile Char.isDigit
    match s with
    | e :: _ =>
      if e.toLower = 'e' && !digits.isEmpty then
        (front ++ back ++ e :: sign ++ digits, s.drop (1 + sign.length + digits.length))
      else (front ++ back, s)
    | [] => (front ++ back, s)

/-- The marks of two or three characters. -/
def longMarks : List String := ["->>", "->", "||", "<<", ">>", "<=", ">=", "==", "!=", "<>"]

/-- Reads a token; none of what is passed over is one. -/
def read? (s : List Char) : Option (Option Token × List Char) :=
  match s with
  | [] => none
  | '-' :: '-' :: s => some (none, s.dropWhile (· ≠ '\n'))
  | '/' :: '*' :: s => some (none, afterComment s)
  | '\'' :: s => (quoted? '\'' s).map fun (q, rest) => (some (.text (String.ofList q)), rest)
  | '"' :: s => (quoted? '"' s).map fun (q, rest) => (some (.name (String.ofList q) true), rest)
  | '\x60' :: s =>
    (quoted? '\x60' s).map fun (q, rest) => (some (.name (String.ofList q) false), rest)
  | '[' :: s => (quoted? ']' s).map fun (q, rest) => (some (.name (String.ofList q) false), rest)
  | c :: s' =>
    if isGap c then some (none, s')
    else if c.toLower = 'x' && s'.head? = some '\'' then do
      let (q, rest) ← quoted? '\'' (s'.drop 1)
      return (some (.blob (← bytesOfHex? q)), rest)
    else if c.isDigit || (c = '.' && (s'.head?.any Char.isDigit)) then
      let (n, rest) := numberChars s
      if rest.head?.any isWordChar then none else some (some (.number (String.ofList n)), rest)
    else if isWordChar c then
      let w := s'.takeWhile isWordChar
      some (some (.word (String.ofList (c :: w))), s'.drop w.length)
    else
      match longMarks.find? fun m => m.toList.isPrefixOf s with
      | some m => some (some (.mark m), s.drop m.length)
      | none => some (some (.mark (String.singleton c)), s')

/-- The tokens of a text, given enough fuel. -/
def readAll : (fuel : Nat) → List Char → Option (List Token)
  | 0, _ => none
  | _ + 1, [] => some []
  | fuel + 1, s => do
    let (t, rest) ← read? s
    return t.toList ++ (← readAll fuel rest)

/-- The tokens of a text. -/
def all? (s : String) : Option (List Token) := readAll (s.length + 1) s.toList

/-- A token in which the case of letters does not matter. -/
def folded : Token → Token
  | .word s => .word (lower s)
  | t => t

end Token

end GameFixes.Database
