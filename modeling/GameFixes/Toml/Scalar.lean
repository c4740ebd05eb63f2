import GameFixes.Toml.Table
import GameFixes.Toml.Text

/-!
# TOML numbers and dates

Numbers, truth values, dates and times are single words; only between a date and a time a blank may
stand. A word that is none of them is refused.
-/

namespace GameFixes.Toml

open Number

/-- The characters of words. -/
def isWordChar (c : Char) : Bool :=
  c.isAlphanum || c == '+' || c == '-' || c == '.' || c == '_' || c == ':'

/-- Digits that single underscores may separate, without them. -/
def digits? (isDigit : Char → Bool) : List Char → Option (List Char)
  | [] => none
  | [c] => if isDigit c then some [c] else none
  | c :: '_' :: s => if isDigit c then (digits? isDigit s).map (c :: ·) else none
  | c :: d :: s => if isDigit c then (digits? isDigit (d :: s)).map (c :: ·) else none

/-- Decimal digits of which only a single one may be a leading zero. -/
def wholeDigits? (s : List Char) : Option (List Char) :=
  match s with
  | '0' :: _ :: _ => none
  | s => digits? Char.isDigit s

/-- Whether a text is a whole number of 64 bits with a sign. -/
def isInteger (s : List Char) : Bool :=
  let decimal (limit : Nat) (s : List Char) : Bool :=
    ((wholeDigits? s).bind (readWhole? 10)).any (· ≤ limit)
  match announcedBase? s with
  | some (base, s) =>
    let digits := digits? (fun c => (digitValue? base c).isSome) s
    (digits.bind (readWhole? base)).any (· < 0x8000000000000000)
  | none =>
    match s with
    | '-' :: s => decimal 0x8000000000000000 s
    | '+' :: s => decimal 0x7FFFFFFFFFFFFFFF s
    | s => decimal 0x7FFFFFFFFFFFFFFF s

/-- The unsigned decimal number, with a point or an exponent, that a text spells. -/
def decimal? (s : List Char) : Option Decimal := do
  let (mantissa, exponent) := s.span fun c => c != 'e' && c != 'E'
  let (whole, fraction) := mantissa.span (· != '.')
  let whole ← wholeDigits? whole
  let fraction ← match fraction with
    | [] => some []
    | _ :: s => digits? Char.isDigit s
  let power ← match exponent with
    | [] => some 0
    | _ :: '-' :: s => (digits? Char.isDigit s).bind fun s => readExponent? ('-' :: s)
    | _ :: '+' :: s => (digits? Char.isDigit s).bind readExponent?
    | _ :: s => (digits? Char.isDigit s).bind readExponent?
  if fraction.isEmpty && exponent.isEmpty then none
  else return ⟨whole ++ fraction, power - fraction.length⟩

/-- Whether a text is a number with a point or an exponent, or one of the special numbers. Only
positive numbers can be too large. -/
def isFloat (s : List Char) : Bool :=
  let special := ["inf", "nan"].map String.toList
  match s with
  | '-' :: s => special.contains s || (decimal? s).isSome
  | '+' :: s => special.contains s || (decimal? s).any Decimal.isFinite
  | s => special.contains s || (decimal? s).any Decimal.isFinite

/-- A number of exactly two digits between bounds. -/
def twoDigits (lo hi : Nat) (a b : Char) : Bool :=
  a.isDigit && b.isDigit && (readWhole? 10 [a, b]).any fun n => lo ≤ n && n ≤ hi

/-- The number of days in a month. -/
def daysIn (year month : Nat) : Nat :=
  if month = 2 then
    if year % 4 = 0 ∧ (year % 100 ≠ 0 ∨ year % 400 = 0) then 29 else 28
  else if month = 4 ∨ month = 6 ∨ month = 9 ∨ month = 11 then 30
  else 31

/-- What follows the date that a text starts with. -/
def afterDate? : List Char → Option (List Char)
  | a :: b :: c :: d :: '-' :: e :: f :: '-' :: g :: h :: s =>
    match readWhole? 10 [a, b, c, d], readWhole? 10 [e, f] with
    | some year, some month =>
      if twoDigits 1 12 e f && twoDigits 1 (daysIn year month) g h then some s else none
    | _, _ => none
  | _ => none

/-- What follows the time of day that a text starts with. -/
def afterTime? : List Char → Option (List Char)
  | a :: b :: ':' :: c :: d :: ':' :: e :: f :: s =>
    if twoDigits 0 23 a b && twoDigits 0 59 c d && twoDigits 0 60 e f then
      match s with
      | '.' :: s =>
        match s.span Char.isDigit with
        | ([], _) => none
        | (_, s) => some s
      | s => some s
    else none
  | _ => none

/-- Whether a text is empty or a distance from universal time. -/
def isOffset : List Char → Bool
  | [] => true
  | ['Z'] => true
  | ['z'] => true
  | [sign, a, b, ':', c, d] =>
    (sign == '+' || sign == '-') && twoDigits 0 23 a b && twoDigits 0 59 c d
  | _ => false

/-- Whether a text is a time of day, perhaps with its distance from universal time. -/
def isTimeAndOffset (s : List Char) : Bool := (afterTime? s).any isOffset

/-- Whether a text is a date and time, or one of them. -/
def isMoment (s : List Char) : Bool :=
  match afterDate? s with
  | some [] => true
  | some (t :: s) => (t == 'T' || t == 't') && isTimeAndOffset s
  | none => afterTime? s == some []

/-- Reads a word. The time behind a date and a blank belongs to the date. -/
def readWord (s : List Char) : Read Item :=
  let (word, rest) := s.span isWordChar
  if afterDate? word = some [] then
    match rest with
    | ' ' :: more =>
      let (time, rest') := more.span isWordChar
      if isTimeAndOffset time then some (.moment, rest') else some (.moment, rest)
    | _ => some (.moment, rest)
  else if isMoment word then some (.moment, rest)
  else if word = "true".toList ∨ word = "false".toList ∨ isInteger word ∨ isFloat word then
    some (.scalar, rest)
  else none

end GameFixes.Toml
