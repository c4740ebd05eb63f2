import GameFixes.Database.Expression

/-!
# Operations on values

Arithmetic, the logic of three truth values, patterns, and the functions that can be called by name.
-/

namespace GameFixes.Database

/-- Why the work on a row ends. -/
inductive Stop
  /-- Nothing of it counts. -/
  | failed
  /-- The row is passed over. -/
  | ignored
  deriving DecidableEq, Repr

namespace Value

/-! ### Logic -/

/-- Whether both of two statements are true. -/
def and3 : Option Bool → Option Bool → Option Bool
  | some false, _ | _, some false => some false
  | some true, some true => some true
  | _, _ => none

/-- Whether one of two statements is true. -/
def or3 : Option Bool → Option Bool → Option Bool
  | some true, _ | _, some true => some true
  | some false, some false => some false
  | _, _ => none

/-! ### Arithmetic -/

/-- An operation on two numbers, as integers if they are such and the result is one. -/
def arithmetic (whole : Int → Int → Int) (fraction : Float → Float → Float) (a b : Value) : Value :=
  match a.number, b.number with
  | .null, _ | _, .null => .null
  | .integer m, .integer n =>
    if isInteger (whole m n) then .integer (whole m n)
    else .ofFloat (fraction (Float.ofInt m) (Float.ofInt n))
  | x, y => .ofFloat (fraction x.float y.float)

/-- The integer that a value stands for. -/
def integer? (v : Value) : Option Int :=
  match v.number with
  | .integer n => some n
  | .real bits =>
    let x := Float.ofBits bits
    some (if x ≥ 9223372036854775808.0 then greatestInteger
      else if x ≤ -9223372036854775808.0 then leastInteger else truncated x)
  | _ => none

/-- An operation on two integers. -/
def onIntegers (f : Int → Int → Value) (a b : Value) : Value :=
  match a.integer?, b.integer? with
  | some m, some n => f m n
  | _, _ => .null

/-- The bits of an integer as a number. -/
def bitsOf (n : Int) : Nat := (n % integerCount).toNat

/-- The integer with some bits. -/
def ofBits (n : Nat) : Value := .integer (if greatestInteger < n then (n : Int) - integerCount else n)

/-- Moves the bits of an integer up, or down if the distance is negative. -/
def shifted (m n : Int) : Value :=
  if 0 ≤ n then
    if 64 ≤ n then .integer 0 else ofBits ((bitsOf m <<< n.toNat) % integerCount)
  else if n ≤ -64 then .integer (if m < 0 then -1 else 0)
  else .integer (m >>> n.natAbs)

/-- A quotient. -/
def quotient (a b : Value) : Value :=
  match a.number, b.number with
  | .null, _ | _, .null => .null
  | .integer m, .integer n =>
    if n = 0 then .null
    else if isInteger (Int.tdiv m n) then .integer (Int.tdiv m n)
    else .ofFloat (Float.ofInt m / Float.ofInt n)
  | x, y => if y.float == 0 then .null else .ofFloat (x.float / y.float)

/-- Two texts behind each other. -/
def joined (a b : Value) : Value :=
  match a.bytes?, b.bytes? with
  | some x, some y => .text (x ++ y)
  | _, _ => .null

/-- An operation that is no comparison and has nothing to do with truth. -/
def operate (op : BinaryOp) (a b : Value) : Value :=
  match op with
  | .add => arithmetic (· + ·) (· + ·) a b
  | .subtract => arithmetic (· - ·) (· - ·) a b
  | .multiply => arithmetic (· * ·) (· * ·) a b
  | .divide => quotient a b
  | .remainder => onIntegers (fun m n => if n = 0 then .null else .integer (Int.tmod m n)) a b
  | .bitAnd => onIntegers (fun m n => ofBits (bitsOf m &&& bitsOf n)) a b
  | .bitOr => onIntegers (fun m n => ofBits (bitsOf m ||| bitsOf n)) a b
  | .shiftLeft => onIntegers shifted a b
  | .shiftRight => onIntegers (fun m n => shifted m (-n)) a b
  | .join => joined a b
  | _ => .null

/-- The value with the other sign. -/
def negated (v : Value) : Value :=
  match v.number with
  | .null => .null
  | .integer n => if isInteger (-n) then .integer (-n) else .ofFloat (-(Float.ofInt n))
  | x => .ofFloat (-x.float)

/-! ### Patterns -/

/-- The characters of a value where a text is needed. -/
def chars (v : Value) : List Char := Text.decodeLossy ((v.bytes?).getD [])

/-- Whether a text fits a pattern in which a percent sign stands for any text and an underline for a
character. -/
def isLike (escape : Option Char) : (fuel : Nat) → (pattern s : List Char) → Bool
  | 0, _, _ => false
  | _ + 1, [], s => s.isEmpty
  | fuel + 1, p :: ps, s =>
    if some p = escape then
      match ps, s with
      | q :: qs, c :: s => c.toLower = q.toLower && isLike escape fuel qs s
      | _, _ => false
    else if p = '%' then
      isLike escape fuel ps s ||
        match s with
        | _ :: t => isLike escape fuel (p :: ps) t
        | [] => false
    else
      match s with
      | c :: t => (p = '_' || p.toLower = c.toLower) && isLike escape fuel ps t
      | [] => false

/-- Whether a character is in the class between brackets, and what of the pattern follows it. -/
def inClass (c : Char) : (isFirst : Bool) → List Char → Option (Bool × List Char)
  | _, [] => none
  | isFirst, ']' :: ps => if isFirst then (inClass c false ps).map fun (b, r) => (b || c = ']', r)
      else some (false, ps)
  | _, a :: '-' :: b :: ps =>
    if b = ']' then (inClass c false ('-' :: b :: ps)).map fun (x, r) => (x || c = a, r)
    else (inClass c false ps).map fun (x, r) => (x || (a ≤ c && c ≤ b), r)
  | _, a :: ps => (inClass c false ps).map fun (b, r) => (b || c = a, r)

/-- Whether a text fits a pattern with stars, question marks and classes. -/
def isGlob : (fuel : Nat) → (pattern s : List Char) → Bool
  | 0, _, _ => false
  | _ + 1, [], s => s.isEmpty
  | fuel + 1, '*' :: ps, s =>
    isGlob fuel ps s ||
      match s with
      | _ :: t => isGlob fuel ('*' :: ps) t
      | [] => false
  | fuel + 1, '?' :: ps, s =>
    match s with
    | _ :: t => isGlob fuel ps t
    | [] => false
  | fuel + 1, '[' :: ps, s =>
    match s with
    | c :: t =>
      let isNot := ps.head? = some '^'
      match inClass c true (if isNot then ps.drop 1 else ps) with
      | some (b, rest) => b ≠ isNot && isGlob fuel rest t
      | none => false
    | [] => false
  | fuel + 1, p :: ps, s =>
    match s with
    | c :: t => p = c && isGlob fuel ps t
    | [] => false

/-- Whether a value fits a pattern. -/
def matches? (isStars : Bool) (v pattern : Value) (escape : Option Value) : Option Bool :=
  if v = .null || pattern = .null || escape = some .null then none
  else
    let s := v.chars
    let p := pattern.chars
    let fuel := s.length + p.length + 2
    some (if isStars then isGlob (fuel * fuel) p s
      else isLike ((escape.map chars).bind List.head?) (fuel * fuel) p s)

/-! ### Functions -/

/-- The word for the kind of a value. -/
def kindWord : Value → String
  | .null => "null"
  | .integer _ => "integer"
  | .real _ => "real"
  | .text _ => "text"
  | .blob _ => "blob"

/-- A text as a value. -/
def ofText (s : String) : Value := .text (bytesOf s)

/-- Characters as a value. -/
def ofChars (s : List Char) : Value := .text (Text.encode s)

/-- A part of a text, from a place that is counted from one, or from the end. -/
def part (v : Value) (start : Int) (length : Option Int) : Value :=
  if v = .null then .null
  else
    let s := v.chars
    let n : Int := s.length
    let first := if start < 0 then n + start else if start = 0 then -1 else start - 1
    let size := length.getD (if start = 0 then n + 1 else n)
    let (low, high) := if size < 0 then (first + size, first) else (first, first + size)
    let low' := max low 0
    let high' := max (min high n) low'
    ofChars ((s.drop low'.toNat).take (high' - low').toNat)

/-- The value with the greatest or the smallest place among others, none of them null. -/
def extreme (isMax : Bool) (l : List Value) : Value :=
  if l.contains .null then .null
  else l.foldl (fun best v =>
    if best = .null then v
    else if (compare .binary v best == (if isMax then .gt else .lt)) then v else best) .null

/-- Every place of a text in another one is taken by a third one. -/
def replaced (old new : List Char) : (fuel : Nat) → List Char → List Char
  | 0, s => s
  | fuel + 1, s =>
    match Text.splitFirst? old s with
    | some (front, back) => front ++ new ++ replaced old new fuel back
    | none => s

/-- The text without some characters at its ends. -/
def stripped (front back : Bool) (v : Value) (drop : List Char) : Value :=
  if v = .null then .null
  else
    let s := v.chars
    let s := if front then s.dropWhile drop.contains else s
    ofChars (if back then (s.reverse.dropWhile drop.contains).reverse else s)

/-- The digits of bytes. -/
def hexText (bytes : List UInt8) : Value :=
  let digit (n : Nat) : Char := Char.ofNat (if n < 10 then 48 + n else 55 + n)
  ofChars (bytes.flatMap fun b => [digit (b.toNat / 16), digit (b.toNat % 16)])

/-- The functions with a value for each row, and how many values each of them takes. -/
def functions : List (String × (Nat × Nat)) :=
  [("abs", 1, 1), ("lower", 1, 1), ("upper", 1, 1), ("length", 1, 1), ("typeof", 1, 1),
    ("coalesce", 2, 127), ("ifnull", 2, 2), ("nullif", 2, 2), ("iif", 2, 127), ("substr", 2, 3),
    ("substring", 2, 3), ("trim", 1, 2), ("ltrim", 1, 2), ("rtrim", 1, 2), ("replace", 3, 3),
    ("instr", 2, 2), ("min", 2, 127), ("max", 2, 127), ("hex", 1, 1), ("quote", 1, 1),
    ("round", 1, 2), ("sign", 1, 1), ("char", 0, 127), ("unicode", 1, 1), ("zeroblob", 1, 1),
    ("like", 2, 3), ("glob", 2, 2), ("likely", 1, 1), ("unlikely", 1, 1), ("likelihood", 2, 2),
    ("concat", 1, 127), ("octet_length", 1, 1), ("random", 0, 0), ("randomblob", 1, 1),
    ("changes", 0, 0), ("total_changes", 0, 0), ("last_insert_rowid", 0, 0), ("date", 0, 127),
    ("time", 0, 127), ("datetime", 0, 127), ("julianday", 0, 127), ("unixepoch", 0, 127),
    ("strftime", 1, 127), ("printf", 0, 127), ("format", 0, 127)]

/-- The functions with a value for many rows. -/
def groupFunctions : List (String × (Nat × Nat)) :=
  [("count", 0, 1), ("sum", 1, 1), ("total", 1, 1), ("avg", 1, 1), ("min", 1, 1), ("max", 1, 1),
    ("group_concat", 1, 2), ("string_agg", 2, 2)]

/-- The value of a function. -/
def call (name : String) (args : List Value) : Value :=
  let text (f : List Char → Value) (v : Value) : Value := if v = .null then .null else f v.chars
  match name, args with
  | "abs", [v] =>
    match v.number with
    | .integer n => .integer n.natAbs
    | .null => .null
    | x => .ofFloat x.float.abs
  | "lower", [v] => text (fun s => ofChars (s.map Char.toLower)) v
  | "upper", [v] => text (fun s => ofChars (s.map Char.toUpper)) v
  | "length", [.blob b] | "octet_length", [.blob b] => .integer b.length
  | "length", [v] => text (fun s => .integer (s.takeWhile (· ≠ '\x00')).length) v
  | "octet_length", [v] => if v = .null then .null else .integer ((v.bytes?).getD []).length
  | "typeof", [v] => ofText v.kindWord
  | "coalesce", l | "ifnull", l => (l.find? (· ≠ .null)).getD .null
  | "nullif", [a, b] => if same .binary a b then .null else a
  | "iif", a :: b :: l => if a.truth? = some true then b else l.head?.getD .null
  | "substr", [v, a] | "substring", [v, a] => part v (a.integer?.getD 0) none
  | "substr", [v, a, n] | "substring", [v, a, n] => part v (a.integer?.getD 0) n.integer?
  | "trim", [v] => stripped true true v [' ']
  | "ltrim", [v] => stripped true false v [' ']
  | "rtrim", [v] => stripped false true v [' ']
  | "trim", [v, d] => stripped true true v d.chars
  | "ltrim", [v, d] => stripped true false v d.chars
  | "rtrim", [v, d] => stripped false true v d.chars
  | "replace", [v, old, new] =>
    if args.contains .null then .null
    else if old.chars.isEmpty then v
    else ofChars (replaced old.chars new.chars (v.chars.length + 1) v.chars)
  | "instr", [v, w] =>
    if args.contains .null then .null
    else match Text.splitFirst? w.chars v.chars with
      | some (front, _) => .integer (front.length + 1)
      | none => .integer 0
  | "min", l => extreme false l
  | "max", l => extreme true l
  | "hex", [v] => hexText ((v.bytes?).getD [])
  | "quote", [.text b] => ofChars ('\'' :: replaced ['\''] ['\'', '\''] (b.length + 1)
      (Text.decodeLossy b) ++ ['\''])
  | "quote", [.null] => ofText "NULL"
  | "quote", [v] => v.asText
  | "round", v :: _ => if v = .null then .null else .ofFloat (v.number.asReal.float.round)
  | "sign", [v] =>
    match v.number with
    | .null => .null
    | x => .integer (if x.float < 0 then -1 else if x.float > 0 then 1 else 0)
  | "char", l => ofChars (l.map fun v => Char.ofNat ((v.integer?.getD 0).toNat))
  | "unicode", [v] => match v.chars with
    | c :: _ => .integer c.toNat
    | [] => .null
  | "like", p :: v :: l => ofTruth (matches? false v p l.head?)
  | "glob", [p, v] => ofTruth (matches? true v p none)
  | "likely", v :: _ | "unlikely", v :: _ | "likelihood", v :: _ => v
  | "concat", l => .text (l.flatMap fun v => (v.bytes?).getD [])
  | "zeroblob", [v] => .blob (List.replicate ((v.integer?.getD 0).toNat % 65536) 0)
  | "random", _ | "changes", _ | "total_changes", _ | "last_insert_rowid", _ => .integer 1
  | "randomblob", _ => .blob [0]
  | "julianday", _ => .ofFloat 2460263.4
  | "unixepoch", _ => .integer 1700000000
  | "date", _ => ofText "2023-11-14"
  | "time", _ => ofText "22:13:20"
  | "datetime", _ => ofText "2023-11-14 22:13:20"
  | _, v :: _ => v.asText
  | _, [] => .null

/-- The value of a function of many rows; `all` is how many rows there are. -/
def callOnGroup (name : String) (all : Nat) (args : List (List Value)) : Value :=
  let firsts := (args.filterMap List.head?).filter (· ≠ .null)
  let sum := firsts.foldl (fun s v => arithmetic (· + ·) (· + ·) s v) (.integer 0)
  match name with
  | "count" => .integer (if args.all List.isEmpty then all else firsts.length)
  | "sum" => if firsts.isEmpty then .null else sum
  | "total" => sum.asReal
  | "avg" =>
    if firsts.isEmpty then .null
    else .ofFloat (sum.asReal.float / Float.ofNat firsts.length)
  | "min" => extreme false firsts
  | "max" => extreme true firsts
  | _ =>
    let separators := args.map fun l => ((l[1]?).getD (ofText ",")).bytes?.getD []
    if firsts.isEmpty then .null
    else .text ((List.zip (separators ++ [[]]) firsts).zipIdx.flatMap fun ((s, v), i) =>
      (if i = 0 then [] else s) ++ (v.bytes?).getD [])

end Value

end GameFixes.Database
