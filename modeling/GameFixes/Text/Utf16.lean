import GameFixes.Text.Utf8

/-!
# Wider spellings of texts

Texts as numbers of sixteen or thirty-two bits, and those as bytes in one order or the other. A mark
at the start may say which order it is.
-/

namespace GameFixes.Text

/-! ### Units -/

/-- The units of sixteen bits that spell a character: one, or a pair. -/
def unitsOf (c : Char) : List Nat :=
  let n := c.toNat
  if n < 0x10000 then [n] else [0xD800 + (n - 0x10000) / 0x400, 0xDC00 + (n - 0x10000) % 0x400]

/-- The text that units of sixteen bits spell. -/
def ofUnits? : List Nat → Option (List Char)
  | [] => some []
  | n :: l =>
    if 0xD800 ≤ n && n < 0xDC00 then
      match l with
      | m :: l =>
        if 0xDC00 ≤ m && m < 0xE000 then
          (ofUnits? l).map (Char.ofNat (0x10000 + (n - 0xD800) * 0x400 + (m - 0xDC00)) :: ·)
        else none
      | [] => none
    else if 0xDC00 ≤ n && n < 0xE000 then none
    else (ofUnits? l).map (Char.ofNat n :: ·)

/-- The text that numbers of characters spell. -/
def ofNumbers? (l : List Nat) : Option (List Char) :=
  l.mapM fun n => if n.isValidChar then some (Char.ofNat n) else none

/-! ### Bytes -/

/-- The bytes of numbers, `width` each, the most significant first if `isBig`. -/
def bytesOfUnits (width : Nat) (isBig : Bool) (l : List Nat) : List UInt8 :=
  l.flatMap fun n =>
    let bytes := (List.range width).map fun i => (n >>> (8 * i)).toUInt8
    if isBig then bytes.reverse else bytes

/-- The numbers that bytes spell, `width` each, if they can be cut that way. -/
def unitsOfBytes? (width : Nat) (isBig : Bool) : (fuel : Nat) → List UInt8 → Option (List Nat)
  | 0, bytes => if bytes.isEmpty then some [] else none
  | fuel + 1, bytes =>
    if bytes.isEmpty then some []
    else if bytes.length < width then none
    else
      let part := bytes.take width
      let n := (if isBig then part else part.reverse).foldl (fun n b => n * 256 + b.toNat) 0
      (unitsOfBytes? width isBig fuel (bytes.drop width)).map (n :: ·)

/-- The number of the mark of the order. -/
def orderMark : Nat := 0xFEFF

end GameFixes.Text
