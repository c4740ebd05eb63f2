import GameFixes.Number.Decimal

/-!
# TOML strings and keys

Basic strings know escapes, literal strings do not, and each of the two has a form that runs over
several lines. Each reader takes a text from behind the opening quotes on, and gives the value and
what follows the closing quotes.
-/

namespace GameFixes.Toml

/-- The value read from the start of a text, and the rest. -/
abbrev Read (α : Type) := Option (α × List Char)

/-- Puts a character in front of a value that was read. -/
def push (c : Char) (r : Read (List Char)) : Read (List Char) := r.map fun (v, s) => (c :: v, s)

/-- The characters that separate tokens on a line. -/
def isSpace (c : Char) : Bool := c == ' ' || c == '\t'

/-- A text from its next token on. -/
def skipSpace (s : List Char) : List Char := s.dropWhile isSpace

/-- Whether a character may stand in comments and, quotes and backslashes apart, in strings. -/
def isText (c : Char) : Bool :=
  c == '\t' || (0x20 ≤ c.toNat && c.toNat ≤ 0x7E) || 0x80 ≤ c.toNat

/-- What follows the line break that a text starts with. -/
def afterBreak? : List Char → Option (List Char)
  | '\n' :: s => some s
  | '\r' :: '\n' :: s => some s
  | _ => none

/-- A text without the line break it starts with, if it does. -/
def dropBreak (s : List Char) : List Char := (afterBreak? s).getD s

/-- The character that a backslash and a letter stand for. -/
def unescape? (c : Char) : Option Char :=
  match c with
  | 'b' => some '\x08'
  | 't' => some '\t'
  | 'n' => some '\n'
  | 'f' => some '\x0c'
  | 'r' => some '\r'
  | '"' => some '"'
  | '\\' => some '\\'
  | _ => none

/-- The character with a code point given in hexadecimal digits; surrogates have none. -/
def codePoint? (digits : List Char) : Option Char := do
  let n ← Number.readWhole? 16 digits
  if n.isValidChar then some (Char.ofNat n) else none

/-- Reads a basic string. -/
def readBasic : List Char → Read (List Char)
  | [] => none
  | '"' :: s => some ([], s)
  | '\\' :: 'u' :: a :: b :: c :: d :: s =>
    match codePoint? [a, b, c, d] with
    | some x => push x (readBasic s)
    | none => none
  | '\\' :: 'U' :: a :: b :: c :: d :: e :: f :: g :: h :: s =>
    match codePoint? [a, b, c, d, e, f, g, h] with
    | some x => push x (readBasic s)
    | none => none
  | '\\' :: c :: s =>
    match unescape? c with
    | some x => push x (readBasic s)
    | none => none
  | c :: s => if isText c ∧ c ≠ '\\' then push c (readBasic s) else none

/-- Reads a literal string. -/
def readLiteral : List Char → Read (List Char)
  | [] => none
  | '\'' :: s => some ([], s)
  | c :: s => if isText c then push c (readLiteral s) else none

/-- The quotes in front of the three that close a string, of which there may be two. -/
def closingQuotes (q : Char) : List Char → List Char × List Char
  | a :: b :: s =>
    if a = q ∧ b = q then ([q, q], s) else if a = q then ([q], b :: s) else ([], a :: b :: s)
  | [a] => if a = q then ([q], []) else ([], [a])
  | [] => ([], [])

/-- Whether only blanks stand before the next line break. -/
def endsLine (s : List Char) : Bool := (afterBreak? (skipSpace s)).isSome

/-- Reads a basic string of several lines; while `skipping`, blanks and line breaks are passed over,
as after a backslash that ends a line. -/
def readBasicLines : (skipping : Bool) → List Char → Read (List Char)
  | _, [] => none
  | _, '"' :: '"' :: '"' :: s => some (closingQuotes '"' s)
  | skipping, '\r' :: '\n' :: s =>
    if skipping then readBasicLines true s else push '\n' (readBasicLines false s)
  | _, '\\' :: 'u' :: a :: b :: c :: d :: s =>
    match codePoint? [a, b, c, d] with
    | some x => push x (readBasicLines false s)
    | none => none
  | _, '\\' :: 'U' :: a :: b :: c :: d :: e :: f :: g :: h :: s =>
    match codePoint? [a, b, c, d, e, f, g, h] with
    | some x => push x (readBasicLines false s)
    | none => none
  | _, '\\' :: c :: s =>
    if endsLine (c :: s) then
      if isSpace c ∨ c = '\n' then readBasicLines true s else readBasicLines true (c :: s)
    else
      match unescape? c with
      | some x => push x (readBasicLines false s)
      | none => none
  | skipping, c :: s =>
    if skipping ∧ (isSpace c ∨ c = '\n') then readBasicLines true s
    else if (isText c ∧ c ≠ '\\') ∨ c = '\n' then push c (readBasicLines false s)
    else none

/-- Reads a literal string of several lines. -/
def readLiteralLines : List Char → Read (List Char)
  | [] => none
  | '\'' :: '\'' :: '\'' :: s => some (closingQuotes '\'' s)
  | '\r' :: '\n' :: s => push '\n' (readLiteralLines s)
  | c :: s => if isText c ∨ c = '\n' then push c (readLiteralLines s) else none

/-- Reads a string of any form at its opening quotes. A line break right behind three opening quotes
is not part of the string. -/
def readString : List Char → Read (List Char)
  | '"' :: '"' :: '"' :: s => readBasicLines false (dropBreak s)
  | '\'' :: '\'' :: '\'' :: s => readLiteralLines (dropBreak s)
  | '"' :: s => readBasic s
  | '\'' :: s => readLiteral s
  | _ => none

/-- The characters of keys without quotes. -/
def isKeyChar (c : Char) : Bool := c.isAlphanum || c == '-' || c == '_'

/-- Reads one key. -/
def readSimpleKey : List Char → Read String
  | '"' :: s => (readBasic s).map fun (k, s) => (String.ofList k, s)
  | '\'' :: s => (readLiteral s).map fun (k, s) => (String.ofList k, s)
  | s =>
    match s.span isKeyChar with
    | ([], _) => none
    | (k, s) => some (String.ofList k, s)

/-- Reads keys separated by dots, with the blanks around them; there may be at most `limit`. -/
def readKeys : (limit : Nat) → List Char → Read (List String)
  | 0, _ => none
  | limit + 1, s =>
    match readSimpleKey (skipSpace s) with
    | none => none
    | some (k, s) =>
      match skipSpace s with
      | '.' :: s => (readKeys limit s).map fun (ks, s) => (k :: ks, s)
      | s => some ([k], s)

end GameFixes.Toml
