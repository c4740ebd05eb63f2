import GameFixes.Number.Decimal
import GameFixes.Text.Utf8

/-!
# YAML scalars

How a text is written so that it is read back as that text. It is plain where it can be; text of
several lines is a literal block; text that would be read as something else, or that a reader would
trip over, is quoted.
-/

namespace GameFixes.Yaml

/-! ### Texts that read as numbers

Decimal numbers count only if the nearest double precision number is finite, and whole numbers in
other bases only if they fit 128 bits. -/

open Number

/-- Whether digits of an announced base spell a number of at most `limit`. -/
def isBasedWhole (limit : Nat) (s : List Char) : Bool :=
  match announcedBase? s with
  | some (base, digits) => (readWhole? base digits).any (· ≤ limit)
  | none => false

/-- Whether a text is a decimal number that is not too large. -/
def isFiniteDecimal (s : List Char) : Bool := (Decimal.read? s).any Decimal.isFinite

/-- Whether a text is a sign or none, a zero, and more digits: read as text, but written quoted. -/
def isZeroLed (s : List Char) : Bool :=
  let s := match s with
    | '-' :: s => s
    | '+' :: s => s
    | s => s
  match s with
  | '0' :: d :: s => (d :: s).all Char.isDigit
  | _ => false

/-- Whether a text spells an infinity or the value that is no number. -/
def isSpecialNumber (s : List Char) : Bool :=
  let infinities := [".inf", ".Inf", ".INF"]
  String.ofList s ∈
    infinities ++ infinities.map ("+" ++ ·) ++ infinities.map ("-" ++ ·) ++ [".nan", ".NaN", ".NAN"]

/-- Whether a plain scalar of this text is read as a number. -/
def readsAsNumber (s : List Char) : Bool :=
  isSpecialNumber s ||
    match s with
    | '+' :: s => isBasedWhole 0xFFFFFFFFFFFFFFFFFFFFFFFFFFFFFFFF s || isFiniteDecimal s
    | '-' :: s => isBasedWhole 0x80000000000000000000000000000000 s || isFiniteDecimal s
    | s => isBasedWhole 0xFFFFFFFFFFFFFFFFFFFFFFFFFFFFFFFF s || isFiniteDecimal s

/-! ### Styles -/

/-- The ways to write a text. -/
inductive Style
  | plain
  | singleQuoted
  | doubleQuoted
  | literal
  deriving DecidableEq, Repr

/-! ### Characters -/

/-- The characters that break a line. -/
def isBreak (c : Char) : Bool :=
  c == '\r' || c == '\n' || c == '\x85' || c == '\u2028' || c == '\u2029'

/-- The characters that may stand unescaped. -/
def isPrintable (c : Char) : Bool :=
  let n := c.toNat
  n == 0x0A || (0x20 ≤ n && n ≤ 0x7E) ||
    (0xA0 ≤ n && n != 0xFEFF && n != 0xFFFE && n != 0xFFFF)

/-- Whether what stands here separates tokens: a blank, a line break or the end. -/
def isGap : Option Char → Bool
  | none => true
  | some c => c == ' ' || c == '\t' || c == '\x00' || isBreak c

/-- The characters that mean something at the start of a scalar. -/
def isIndicator (c : Char) : Bool :=
  c ∈ ['#', ',', '[', ']', '{', '}', '&', '*', '!', '|', '>', '\'', '"', '%', '@', '\x60']

/-! ### What a text allows -/

/-- Whether the start of a text would be taken for something else than text. -/
def startsBadly : List Char → Bool
  | [] => false
  | c :: s =>
    isIndicator c || ((c == '?' || c == ':' || c == '-') && isGap s.head?) ||
      (c :: s).take 3 == ['-', '-', '-'] || (c :: s).take 3 == ['.', '.', '.']

/-- Whether a colon before a gap, or a comment sign after one, stands behind the first character. -/
def holdsBadly : (previous : Char) → List Char → Bool
  | _, [] => false
  | p, c :: s =>
    (c == ':' && isGap s.head?) || (c == '#' && isGap (some p)) || holdsBadly c s

/-- Whether two characters with these properties stand next to each other. -/
def anyAdjacent (p q : Char → Bool) : List Char → Bool
  | c :: d :: s => (p c && q d) || anyAdjacent p q (d :: s)
  | _ => false

/-- Whether a character is a blank that a reader may fold. -/
def isSpace (c : Char) : Bool := c == ' '

/-- Whether the text has a blank before a line break or a character that must be escaped, so that
only double quotes hold it. -/
def needsEscapes (s : List Char) : Bool :=
  !s.all isPrintable || anyAdjacent isSpace isBreak s

/-- Whether a text runs over several lines. -/
def isMultiline (s : List Char) : Bool := s.any isBreak

/-- Whether a text can be plain, apart from what it would be read as. -/
def allowsPlain (s : List Char) : Bool :=
  !needsEscapes s && !isMultiline s && !(s.head?.any isSpace) && !(s.getLast?.any isSpace) &&
    !startsBadly s &&
    match s with
    | [] => true
    | c :: s => !holdsBadly c s

/-- Whether single quotes can hold a text. -/
def allowsSingleQuoted (s : List Char) : Bool :=
  !needsEscapes s && !anyAdjacent isBreak isSpace s

/-- Whether a literal block can hold a text. -/
def allowsLiteral (s : List Char) : Bool :=
  !needsEscapes s && !(s.getLast?.any isSpace)

/-- Whether a plain scalar of this text is not read as text. -/
def readsAsOther (s : List Char) : Bool :=
  String.ofList s ∈
    ["", "~", "null", "Null", "NULL", "true", "True", "TRUE", "false", "False", "FALSE"] ||
    readsAsNumber s || isZeroLed s

/-- The way to write a text. -/
def style (s : List Char) : Style :=
  if '\n' ∈ s then if allowsLiteral s then .literal else .doubleQuoted
  else if allowsPlain s && !readsAsOther s then .plain
  else if allowsSingleQuoted s then .singleQuoted
  else .doubleQuoted

/-! ### The written forms -/

/-- The blanks that start a line inside a scalar. -/
def indentation (indent : Nat) : List Char := List.replicate indent ' '

/-- A text in single quotes from a line break on, or from its start; `broken` says that a line break
stands before it. -/
def singleQuotedBody (indent : Nat) : (broken : Bool) → List Char → List Char
  | broken, [] => if broken then indentation indent else []
  | broken, c :: s =>
    if isBreak c then c :: singleQuotedBody indent true s
    else
      (if broken then indentation indent else []) ++
        (if c = '\'' then ['\'', '\''] else [c]) ++ singleQuotedBody indent false s

/-- An upper-case hexadecimal digit. -/
def hexDigit (n : Nat) : Char := (Nat.digitChar n).toUpper

/-- The last `width` hexadecimal digits of a number. -/
def hexDigits : (width n : Nat) → List Char
  | 0, _ => []
  | width + 1, n => hexDigits width (n / 16) ++ [hexDigit (n % 16)]

/-- The escape for a character that cannot stand unescaped. -/
def escape (c : Char) : List Char :=
  match c.toNat with
  | 0x00 => ['\\', '0']
  | 0x07 => ['\\', 'a']
  | 0x08 => ['\\', 'b']
  | 0x09 => ['\\', 't']
  | 0x0A => ['\\', 'n']
  | 0x0B => ['\\', 'v']
  | 0x0C => ['\\', 'f']
  | 0x0D => ['\\', 'r']
  | 0x1B => ['\\', 'e']
  | 0x22 => ['\\', '"']
  | 0x5C => ['\\', '\\']
  | 0x85 => ['\\', 'N']
  | 0x2028 => ['\\', 'L']
  | 0x2029 => ['\\', 'P']
  | n =>
    if n ≤ 0xFF then '\\' :: 'x' :: hexDigits 2 n
    else if n ≤ 0xFFFF then '\\' :: 'u' :: hexDigits 4 n
    else '\\' :: 'U' :: hexDigits 8 n

/-- A character in double quotes. -/
def doubleQuotedChar (c : Char) : List Char :=
  if !isPrintable c || isBreak c || c == '"' || c == '\\' then escape c else [c]

/-- The hints in the header of a literal block: the indentation, if the text starts with a blank or
a line break, and what becomes of the line breaks at the end. -/
def literalHints (s : List Char) : List Char :=
  (if s.head?.any fun c => isSpace c || isBreak c then ['2'] else []) ++
    match s.reverse with
    | [] => ['-']
    | [c] => if isBreak c then ['+'] else ['-']
    | c :: d :: _ => if !isBreak c then ['-'] else if isBreak d then ['+'] else []

/-- The lines of a literal block. -/
def literalBody (indent : Nat) : (broken : Bool) → List Char → List Char
  | _, [] => []
  | broken, c :: s =>
    if isBreak c then c :: literalBody indent true s
    else (if broken then indentation indent else []) ++ c :: literalBody indent false s

/-- A text in a given style, its further lines indented. -/
def written (indent : Nat) (s : List Char) : Style → List Char
  | .plain => s
  | .singleQuoted => '\'' :: (singleQuotedBody indent false s ++ ['\''])
  | .doubleQuoted => '"' :: (s.flatMap doubleQuotedChar ++ ['"'])
  | .literal => '|' :: (literalHints s ++ '\n' :: literalBody indent true s)

/-- A text as a scalar. -/
def scalar (indent : Nat) (s : String) : List Char := written indent s.toList (style s.toList)

/-- Whether a text may be a key in front of a colon on one line. -/
def isSimpleKey (s : String) : Bool := !isMultiline s.toList && (bytesOf s).length ≤ 128

end GameFixes.Yaml
