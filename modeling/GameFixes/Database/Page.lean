import GameFixes.Database.Value

/-!
# Pages

The file of a database is a row of pages of one size. Each table is a tree of pages with a record
for each row; what does not fit into a page goes on in others.
-/

namespace GameFixes.Database

/-- How texts are kept. -/
inductive TextForm
  | octets
  | littleUnits
  | bigUnits
  deriving DecidableEq, Repr

/-- The pages of a file. -/
structure Pages where
  bytes : Array UInt8
  /-- How many bytes a page has, and how many of them are used. -/
  size : Nat
  usable : Nat
  count : Nat
  textForm : TextForm

namespace Pages

/-! ### Numbers -/

/-- The byte at a place; behind the end there are zeros. -/
def byte (bytes : Array UInt8) (i : Nat) : Nat := (bytes[i]?.getD 0).toNat

/-- The number in some bytes, the highest digits first. -/
def big (bytes : Array UInt8) (i : Nat) : (length : Nat) → Nat
  | 0 => 0
  | n + 1 => big bytes i n * 256 + byte bytes (i + n)

/-- The number of some bytes with a sign. -/
def signed (length n : Nat) : Int :=
  let count : Nat := 1 <<< (8 * length)
  if 2 * n < count then n else (n : Int) - count

/-- Reads a number of one to nine bytes: the number, and how many bytes it takes. -/
def number (bytes : Array UInt8) (i : Nat) : (taken acc : Nat) → (fuel : Nat) → Nat × Nat
  | taken, acc, 0 => (acc, taken)
  | taken, acc, fuel + 1 =>
    let b := byte bytes (i + taken)
    if taken = 8 then (acc * 256 + b, 9)
    else if b < 128 then (acc * 128 + b, taken + 1)
    else number bytes i (taken + 1) (acc * 128 + (b - 128)) fuel

/-- Reads a number of one to nine bytes. -/
def readNumber (bytes : Array UInt8) (i : Nat) : Nat × Nat := number bytes i 0 0 9

/-! ### The start of a file -/

/-- What every file starts with. -/
def title : List UInt8 := bytesOf "SQLite format 3" ++ [0]

/-- The number that says that all pages are new. -/
def newestForm : Nat := 4

/-- The pages of a file, unless its start says otherwise. -/
def ofBytes? (content : List UInt8) : Option Pages :=
  let bytes := content.toArray
  let at1 := byte bytes
  let size := if big bytes 16 2 = 1 then 65536 else big bytes 16 2
  let usable := size - at1 20
  let inFile := (bytes.size + size - 1) / size
  let said := big bytes 28 4
  let count := if said = 0 || big bytes 24 4 ≠ big bytes 92 4 then inFile else said
  let isPower := (List.range 8).any fun k => size = 512 <<< k
  let form := match big bytes 56 4 % 4 with
    | 2 => TextForm.littleUnits
    | 3 => .bigUnits
    | _ => .octets
  if content.take 16 = title && at1 18 ≤ 2 && at1 19 ≤ 2 &&
      at1 21 = 64 && at1 22 = 32 && at1 23 = 32 && isPower && 480 ≤ usable &&
      count ≤ inFile && big bytes 44 4 ≤ newestForm
  then some ⟨bytes, size, usable, count, form⟩
  else none

/-- Whether changes are written into a log first. -/
def usesLog (p : Pages) : Bool := byte p.bytes 18 = 2 && byte p.bytes 19 = 2

/-! ### Records -/

/-- Where a page starts, if there is one with a number. -/
def start? (p : Pages) (page : Nat) : Option Nat :=
  if 1 ≤ page && page ≤ p.count then some ((page - 1) * p.size) else none

/-- The bytes of a part of the file. -/
def slice (p : Pages) (i length : Nat) : List UInt8 :=
  (List.range length).map fun k => p.bytes[i + k]?.getD 0

/-- The bytes on pages that follow each other. -/
def overflow (p : Pages) : (fuel page length : Nat) → Option (List UInt8)
  | 0, _, _ => none
  | fuel + 1, page, length =>
    if length = 0 then some []
    else do
      let i ← p.start? page
      let here := min length (p.usable - 4)
      return p.slice (i + 4) here ++ (← p.overflow fuel (big p.bytes i 4) (length - here))

/-- How much of a record stands on its page. -/
def localSize (p : Pages) (isTable : Bool) (length : Nat) : Nat :=
  let most := if isTable then p.usable - 35 else (p.usable - 12) * 64 / 255 - 23
  let least := (p.usable - 12) * 32 / 255 - 23
  if length ≤ most then length
  else
    let n := least + (length - least) % (p.usable - 4)
    if n ≤ most then n else least

/-- The bytes of a record at a place. -/
def payload? (p : Pages) (isTable : Bool) (i length : Nat) : Option (List UInt8) :=
  let here := p.localSize isTable length
  if p.bytes.size < i + here then none
  else if here = length then some (p.slice i length)
  else do
    return p.slice i here ++
      (← p.overflow (p.count + 1) (big p.bytes (i + here) 4) (length - here))

/-- The text that some bytes are, in the usual form. -/
def textOf (form : TextForm) (bytes : List UInt8) : List UInt8 :=
  match form with
  | .octets => bytes
  | .littleUnits => bytesOf (String.ofList (characters (units false bytes)))
  | .bigUnits => bytesOf (String.ofList (characters (units true bytes)))
where
  /-- Numbers of two bytes. -/
  units (isBig : Bool) : List UInt8 → List Nat
    | a :: b :: l =>
      (if isBig then a.toNat * 256 + b.toNat else b.toNat * 256 + a.toNat) :: units isBig l
    | _ => []
  /-- The characters that numbers spell; one that spells none is replaced. -/
  characters : List Nat → List Char
    | u :: v :: l =>
      if 0xD800 ≤ u && u < 0xDC00 then
        if 0xDC00 ≤ v && v < 0xE000 then
          Char.ofNat (0x10000 + (u - 0xD800) * 0x400 + (v - 0xDC00)) :: characters l
        else '\uFFFD' :: characters (v :: l)
      else (if 0xDC00 ≤ u && u < 0xE000 then '\uFFFD' else Char.ofNat u) :: characters (v :: l)
    | [u] => [if 0xD800 ≤ u && u < 0xE000 then '\uFFFD' else Char.ofNat u]
    | [] => []

/-- A value of some kind at a place in a record, and how many bytes it has. -/
def value (form : TextForm) (bytes : Array UInt8) (i kind : Nat) : Value × Nat :=
  let whole := fun n => (Value.integer (signed n (big bytes i n)), n)
  let part := fun n => ((List.range n).map fun k => bytes[i + k]?.getD 0, n)
  match kind with
  | 0 => (.null, 0)
  | 1 => whole 1
  | 2 => whole 2
  | 3 => whole 3
  | 4 => whole 4
  | 5 => whole 6
  | 6 => whole 8
  | 7 =>
    let bits := (big bytes i 8).toUInt64
    (.ofFloat (Float.ofBits bits), 8)
  | 8 => (.integer 0, 0)
  | 9 => (.integer 1, 0)
  | 10 | 11 => (.null, 0)
  | n =>
    if n % 2 = 0 then
      let (b, k) := part ((n - 12) / 2)
      (.blob b, k)
    else
      let (b, k) := part ((n - 13) / 2)
      (.text (textOf form b), k)

/-- The values whose kinds stand in a record up to an end. -/
def values (form : TextForm) (bytes : Array UInt8) (stop : Nat) :
    (fuel at1 body : Nat) → Option (List Value)
  | 0, _, _ => none
  | fuel + 1, i, body =>
    if stop ≤ i then (if i = stop then some [] else none)
    else
      let (kind, n) := readNumber bytes i
      let (v, k) := value form bytes body kind
      if bytes.size < body + k then none
      else (values form bytes stop fuel (i + n) (body + k)).map (v :: ·)

/-- The values of a record. -/
def record? (p : Pages) (content : List UInt8) : Option (List Value) :=
  let bytes := content.toArray
  let (stop, n) := readNumber bytes 0
  if bytes.size < stop then none
  else values p.textForm bytes stop (bytes.size + 1) n stop

/-! ### Trees -/

/-- The places of the cells of a page, with the place of its start, its kind, and its last page. -/
def cells? (p : Pages) (page : Nat) : Option (List Nat × Nat × Nat) := do
  let i ← p.start? page
  let head := if page = 1 then i + 100 else i
  let kind := byte p.bytes head
  let count := big p.bytes (head + 3) 2
  let isInner := kind = 2 || kind = 5
  let first := head + (if isInner then 12 else 8)
  if [2, 5, 10, 13].contains kind && count ≤ (p.size - 8) / 6 then
    let places := (List.range count).map fun k => big p.bytes (first + 2 * k) 2
    if places.all fun n => n + 4 ≤ p.usable then
      return (places.map (i + ·), kind, big p.bytes (head + 8) 4)
    else none
  else none

/-- The numbers and records in a tree of pages with numbered rows. -/
def numberedRows? (p : Pages) : (fuel page : Nat) → Option (List (Int × List Value))
  | 0, _ => none
  | fuel + 1, page => do
    let (places, kind, last) ← p.cells? page
    if kind = 13 then
      places.mapM fun i => do
        let (length, n) := readNumber p.bytes i
        let (id, m) := readNumber p.bytes (i + n)
        let content ← p.payload? true (i + n + m) length
        return (signed 8 id, ← p.record? content)
    else if kind = 5 then
      let parts ← places.mapM fun i => p.numberedRows? fuel (big p.bytes i 4)
      return parts.flatten ++ (← p.numberedRows? fuel last)
    else none

/-- The records in a tree of pages whose rows have no numbers. -/
def plainRows? (p : Pages) : (fuel page : Nat) → Option (List (List Value))
  | 0, _ => none
  | fuel + 1, page => do
    let (places, kind, last) ← p.cells? page
    let own := fun (i : Nat) => do
      let (length, n) := readNumber p.bytes i
      p.record? (← p.payload? false (i + n) length)
    if kind = 10 then places.mapM own
    else if kind = 2 then
      let parts ← places.mapM fun i => do
        return (← p.plainRows? fuel (big p.bytes i 4)) ++ [← own (i + 4)]
      return parts.flatten ++ (← p.plainRows? fuel last)
    else none

/-- How deep a tree of pages can be. -/
def depthLimit : Nat := 20

end Pages

end GameFixes.Database
