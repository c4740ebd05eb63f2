import GameFixes.Text.Find
import GameFixes.Text.Utf8

/-!
# Values in tables

What a cell of a table holds, and how values are compared. A column has an affinity: values of
another kind are changed to the preferred one where nothing is lost by that.
-/

namespace GameFixes.Database

/-- What a cell holds. -/
inductive Value
  | null
  | integer (n : Int)
  /-- A number in double precision, by its bits. -/
  | real (bits : UInt64)
  | text (bytes : List UInt8)
  | blob (bytes : List UInt8)
  deriving DecidableEq, Repr, Inhabited

/-- The kind of values that a column prefers. -/
inductive Affinity
  | blob
  | text
  | numeric
  | integer
  | real
  deriving DecidableEq, Repr

/-- How texts are compared. -/
inductive Collation
  | binary
  /-- Capital letters count as small ones. -/
  | caseless
  /-- Spaces at the end do not count. -/
  | trimmed
  deriving DecidableEq, Repr

/-- Letters of ASCII as small ones. -/
def lower (s : String) : String := String.ofList (s.toList.map Char.toLower)

namespace Affinity

/-- Whether values become numbers where they can. -/
def isNumeric : Affinity → Bool
  | .numeric | .integer | .real => true
  | .blob | .text => false

/-- The affinity that the name of a type says. -/
def ofType (type : String) : Affinity :=
  let has := fun (part : String) => Text.occurs part.toList (lower type).toList
  if type = "" then .blob
  else if has "int" then .integer
  else if has "char" || has "clob" || has "text" then .text
  else if has "blob" then .blob
  else if has "real" || has "floa" || has "doub" then .real
  else .numeric

end Affinity

/-! ### Numbers -/

/-- The smallest and the greatest number that an integer can be. -/
def leastInteger : Int := -9223372036854775808
def greatestInteger : Int := 9223372036854775807

/-- How many integers there are. -/
def integerCount : Nat := 18446744073709551616

/-- Whether a number can be an integer. -/
def isInteger (n : Int) : Bool := leastInteger ≤ n && n ≤ greatestInteger

/-- A number in double precision as a value; what is no number is null. -/
def Value.ofFloat (x : Float) : Value := if x.isNaN then .null else .real x.toBits

/-- The integer next to a number in double precision, toward zero. -/
def truncated (x : Float) : Int :=
  let n : Int := x.abs.floor.toUInt64.toNat
  if x < 0 then -n else n

/-- The integer that a number in double precision is. -/
def whole? (x : Float) : Option Int :=
  if x.abs < 9223372036854775808.0 && x.floor == x then some (truncated x) else none

/-- Whether a character is blank in a number. -/
def isGap (c : Char) : Bool := c = ' ' || ('\t' ≤ c && c ≤ '\r')

/-- What a spelled number is: its value, whether it is spelled as a whole one, and what follows. -/
structure Spelled where
  value : Value
  isWhole : Bool
  rest : List Char

/-- A number in double precision: digits, and the power of ten that they are multiplied by. -/
def floatOf (isNegative : Bool) (digits : Nat) (exponent : Int) : Float :=
  let x := if exponent < 0 then Float.ofScientific digits true (min exponent.natAbs 5000)
    else Float.ofScientific digits false (min exponent.natAbs 5000)
  if isNegative then -x else x

/-- The number that digits spell. -/
def natOf (digits : List Char) : Nat := digits.foldl (fun n c => n * 10 + (c.toNat - 48)) 0

/-- Reads a number at the start of a text. -/
def spelled? (s : List Char) : Option Spelled :=
  let s := s.dropWhile isGap
  let isNegative := s.head? = some '-'
  let s := if s.head? = some '-' || s.head? = some '+' then s.drop 1 else s
  let front := s.takeWhile Char.isDigit
  let s := s.drop front.length
  let point := s.head? = some '.'
  let back := if point then (s.drop 1).takeWhile Char.isDigit else []
  let s := if point then s.drop (back.length + 1) else s
  if front.isEmpty && back.isEmpty then none
  else
    let power := match s with
      | e :: '-' :: t => if e.toLower = 'e' then some (true, t.takeWhile Char.isDigit, 2) else none
      | e :: '+' :: t => if e.toLower = 'e' then some (false, t.takeWhile Char.isDigit, 2) else none
      | e :: t => if e.toLower = 'e' then some (false, t.takeWhile Char.isDigit, 1) else none
      | [] => none
    let digits := natOf (front ++ back)
    match power with
    | some (isDown, d :: ds, n) =>
      let e : Int := natOf (d :: ds)
      let exponent := (if isDown then -e else e) - back.length
      some ⟨.ofFloat (floatOf isNegative digits exponent), false, s.drop (n + (d :: ds).length)⟩
    | _ =>
      let n : Int := if isNegative then -(digits : Int) else digits
      if !point && isInteger n then some ⟨.integer n, true, s⟩
      else some ⟨.ofFloat (floatOf isNegative digits (-(back.length : Int))), !point, s⟩

/-- The number that a whole text spells. -/
def numberOf? (bytes : List UInt8) : Option Value :=
  (spelled? (Text.octets bytes)).bind fun r =>
    if (r.rest.dropWhile isGap).isEmpty then some r.value else none

/-- The digits of a number in double precision: at most fifteen, and where the point is. -/
def digitsOf (x : Float) : List Char × Int :=
  let (m, e) := x.abs.frExp
  -- The number is `m` times a power of two, with 53 bits before the point.
  let whole := (m.scaleB 53).toUInt64.toNat
  let power := e - 53
  let num := if power < 0 then whole else whole <<< power.toNat
  let den := if power < 0 then 1 <<< (-power).toNat else 1
  -- `point` is how many digits stand before the point.
  let point : Int :=
    if den ≤ num then (Nat.toDigits 10 (num / den)).length
    else
      let n := (Nat.toDigits 10 (den / num)).length
      if num * Nat.pow 10 (n - 1) = den then 2 - (n : Int) else 1 - (n : Int)
  let shift := 15 - point
  let scaled := if shift < 0 then (num, den * Nat.pow 10 (-shift).toNat)
    else (num * Nat.pow 10 shift.toNat, den)
  let n := (2 * scaled.1 + scaled.2) / (2 * scaled.2)
  let s := Nat.toDigits 10 n
  (s, point + s.length - 15)

/-- The text of a number in double precision. -/
def floatText (x : Float) : String :=
  if x == 0 then "0.0"
  else if x.isInf then (if x < 0 then "-Inf" else "Inf")
  else
    let (digits, point) := digitsOf x
    let digits := (digits.reverse.dropWhile (· = '0')).reverse
    let body :=
      if -4 < point && point ≤ 15 then
        if point ≤ 0 then "0." ++ String.ofList (List.replicate (-point).toNat '0' ++ digits)
        else
          let front := digits.take point.toNat
          let back := digits.drop point.toNat
          String.ofList (front ++ List.replicate (point.toNat - front.length) '0') ++ "." ++
            (if back.isEmpty then "0" else String.ofList back)
      else
        let e := point - 1
        let back := digits.drop 1
        let size := toString e.natAbs
        String.ofList (digits.take 1) ++ "." ++ (if back.isEmpty then "0" else String.ofList back) ++
          "e" ++ (if e < 0 then "-" else "+") ++ (if size.length < 2 then "0" ++ size else size)
    (if x < 0 then "-" else "") ++ body

/-- The text of a number as bytes. -/
def Value.numberText? : Value → Option (List UInt8)
  | .integer n => some (bytesOf (toString n))
  | .real bits => some (bytesOf (floatText (Float.ofBits bits)))
  | _ => none

/-! ### Preferred kinds -/

/-- A number as an integer if it is one. -/
def Value.asInteger : Value → Value
  | .real bits => match whole? (Float.ofBits bits) with
    | some n => if leastInteger < n && n < greatestInteger then .integer n else .real bits
    | none => .real bits
  | v => v

/-- A number in double precision. -/
def Value.asReal : Value → Value
  | .integer n => .ofFloat (Float.ofInt n)
  | v => v

/-- A text as a number if it spells one. -/
def Value.asNumber : Value → Value
  | .text bytes => (numberOf? bytes).getD (.text bytes)
  | v => v

/-- A number as a text. -/
def Value.asText (v : Value) : Value :=
  match v.numberText? with
  | some bytes => .text bytes
  | none => v

/-- A value as a column with an affinity holds it. -/
def Affinity.apply : Affinity → Value → Value
  | .blob, v => v
  | .text, v => v.asText
  | .numeric, v => v.asNumber.asInteger
  | .integer, v => v.asNumber.asInteger
  | .real, v => v.asNumber.asReal

/-! ### Order -/

namespace Collation

/-- The collation with a name. -/
def ofName? (name : String) : Option Collation :=
  [("binary", .binary), ("nocase", .caseless), ("rtrim", .trimmed)].lookup (lower name)

/-- What of a text counts. -/
def key (c : Collation) (bytes : List UInt8) : List UInt8 :=
  match c with
  | .binary => bytes
  | .caseless => bytes.map fun b => if 0x41 ≤ b && b ≤ 0x5A then b + 0x20 else b
  | .trimmed => (bytes.reverse.dropWhile (· = 0x20)).reverse

end Collation

/-- The order of lists of bytes. -/
def compareBytes : List UInt8 → List UInt8 → Ordering
  | [], [] => .eq
  | [], _ :: _ => .lt
  | _ :: _, [] => .gt
  | a :: s, b :: t => if a < b then .lt else if b < a then .gt else compareBytes s t

/-- The order of numbers in double precision. -/
def compareFloats (x y : Float) : Ordering := if x < y then .lt else if y < x then .gt else .eq

namespace Value

/-- The kinds of values in their order. -/
def rank : Value → Nat
  | .null => 0
  | .integer _ | .real _ => 1
  | .text _ => 2
  | .blob _ => 3

/-- The order of values. -/
def compare (c : Collation) : Value → Value → Ordering
  | .integer m, .integer n => Ord.compare m n
  | .integer m, .real y => compareFloats (Float.ofInt m) (Float.ofBits y)
  | .real x, .integer n => compareFloats (Float.ofBits x) (Float.ofInt n)
  | .real x, .real y => compareFloats (Float.ofBits x) (Float.ofBits y)
  | .text a, .text b => compareBytes (c.key a) (c.key b)
  | .blob a, .blob b => compareBytes a b
  | v, w => Ord.compare v.rank w.rank

/-- Whether two values, neither of them null, are the same. -/
def same (c : Collation) (v w : Value) : Bool :=
  v ≠ .null && w ≠ .null && compare c v w == .eq

/-- The number that a value stands for where a number is needed. -/
def number : Value → Value
  | .text bytes | .blob bytes => ((spelled? (Text.octets bytes)).map (·.value)).getD (.integer 0)
  | v => v

/-- A number in double precision. -/
def float : Value → Float
  | .integer n => Float.ofInt n
  | .real bits => Float.ofBits bits
  | _ => 0

/-- Whether a value counts as true; null is neither. -/
def truth? (v : Value) : Option Bool :=
  match v.number with
  | .null => none
  | .integer n => some (n ≠ 0)
  | .real bits => some (Float.ofBits bits != 0)
  | _ => some false

/-- A truth value as a value. -/
def ofTruth : Option Bool → Value
  | none => .null
  | some true => .integer 1
  | some false => .integer 0

/-- What a value spells where a text is needed. -/
def bytes? : Value → Option (List UInt8)
  | .null => none
  | .text bytes | .blob bytes => some bytes
  | v => v.numberText?

end Value

end GameFixes.Database
