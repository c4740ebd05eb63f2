/-!
# Whole and decimal numbers

Numbers as they are spelled: digits of some base, and decimal fractions with an exponent. Whether a
decimal number is within the range of double precision is decided exactly.
-/

namespace GameFixes.Number

/-- The value of a digit of a base, in either case. -/
def digitValue? (base : Nat) (c : Char) : Option Nat :=
  let n :=
    if '0' ≤ c ∧ c ≤ '9' then some (c.toNat - '0'.toNat)
    else if 'a' ≤ c ∧ c ≤ 'z' then some (c.toNat - 'a'.toNat + 10)
    else if 'A' ≤ c ∧ c ≤ 'Z' then some (c.toNat - 'A'.toNat + 10)
    else none
  n.filter (· < base)

/-- The number that one or more digits of a base spell. -/
def readWhole? (base : Nat) : List Char → Option Nat
  | [] => none
  | s => s.foldlM (fun acc c => (digitValue? base c).map (acc * base + ·)) 0

/-- The base that a text announces, and the digits after the announcement. -/
def announcedBase? : List Char → Option (Nat × List Char)
  | '0' :: 'x' :: s => some (16, s)
  | '0' :: 'o' :: s => some (8, s)
  | '0' :: 'b' :: s => some (2, s)
  | _ => none

/-- A decimal number: its digits without the point, and the power of ten they are multiplied by. -/
structure Decimal where
  digits : List Char
  exponent : Int

/-- Reads the digits of an exponent and its sign. -/
def readExponent? (s : List Char) : Option Int :=
  match s with
  | '-' :: s => (readWhole? 10 s).map fun n => -(n : Int)
  | '+' :: s => (readWhole? 10 s).map fun n => (n : Int)
  | s => (readWhole? 10 s).map fun n => (n : Int)

/-- Reads an unsigned decimal number: digits, perhaps with a point among or around them, and perhaps
an exponent. -/
def Decimal.read? (s : List Char) : Option Decimal := do
  let (whole, s) := s.span Char.isDigit
  let (fraction, s) := match s with
    | '.' :: s => s.span Char.isDigit
    | s => ([], s)
  if whole.isEmpty && fraction.isEmpty then none
  else
    let exponent ← match s with
      | [] => some 0
      | e :: s => if e = 'e' ∨ e = 'E' then readExponent? s else none
    return ⟨whole ++ fraction, exponent - fraction.length⟩

/-- The least number that double precision rounds to infinity. -/
def overflowBound : Nat := Nat.pow 2 1024 - Nat.pow 2 970

/-- Whether the nearest double precision number is finite. The number of digits decides, except
near the bound. -/
def Decimal.isFinite (d : Decimal) : Bool :=
  let digits := d.digits.dropWhile (· == '0')
  let size := (digits.length : Int) + d.exponent
  if digits.isEmpty || size < 300 then true
  else if 320 < size then false
  else
    match readWhole? 10 digits with
    | none => true
    | some m => m * Nat.pow 10 d.exponent.toNat < overflowBound * Nat.pow 10 (-d.exponent).toNat

end GameFixes.Number
