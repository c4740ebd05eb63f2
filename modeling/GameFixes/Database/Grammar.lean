import GameFixes.Database.Expression
import GameFixes.Database.Token

/-!
# Grammar

How expressions, queries and changes are read from tokens. Operators bind in ten levels; each reader
returns what it has read and the tokens behind it, and none where something else stands there.
-/

namespace GameFixes.Database.Grammar

/-- Something read from tokens, and the tokens behind it. -/
abbrev Reader (α : Type) := List Token → Option (α × List Token)

/-! ### Words and names -/

/-- The words that are no names. -/
def reserved : List String :=
  ["add", "all", "alter", "and", "as", "autoincrement", "between", "case", "check", "collate",
    "commit", "constraint", "create", "default", "deferrable", "delete", "distinct", "drop", "else",
    "escape", "except", "exists", "foreign", "from", "group", "having", "in", "index", "insert",
    "intersect", "into", "is", "isnull", "join", "limit", "not", "nothing", "notnull", "null", "on",
    "or", "order", "primary", "references", "returning", "select", "set", "table", "then", "to",
    "transaction", "union", "unique", "update", "using", "values", "when", "where"]

/-- The words about how tables are put side by side, which are no names behind a table. -/
def joinWords : List String := ["cross", "full", "inner", "left", "natural", "outer", "right"]

/-- What follows a word. -/
def word? (w : String) : List Token → Option (List Token)
  | .word s :: rest => if lower s = w then some rest else none
  | _ => none

/-- What follows some words. -/
def words? : List String → List Token → Option (List Token)
  | [], t => some t
  | w :: ws, t => (word? w t).bind (words? ws)

/-- What follows a mark. -/
def mark? (m : String) : List Token → Option (List Token)
  | .mark s :: rest => if s = m then some rest else none
  | _ => none

/-- What follows a word, if it is there, and whether it is. -/
def optional (w : String) (t : List Token) : Bool × List Token :=
  match word? w t with
  | some t => (true, t)
  | none => (false, t)

/-- Reads a name. -/
def name? : Reader String
  | .word s :: rest => if reserved.contains (lower s) then none else some (s, rest)
  | .name s _ :: rest => some (s, rest)
  | .text s :: rest => some (s, rest)
  | _ => none

/-- Reads another name for what stands in front of it. -/
def alias? (t : List Token) : Option String × List Token :=
  match word? "as" t with
  | some t => match name? t with
    | some (n, t) => (some n, t)
    | none => (none, t)
  | none =>
    match t with
    | .word s :: rest =>
      if (reserved ++ joinWords).contains (lower s) then (none, t) else (some s, rest)
    | .name s _ :: rest => (some s, rest)
    | .text s :: rest => (some s, rest)
    | _ => (none, t)

/-- Reads one or more things with commas between them. -/
def list? {α : Type} (one : Reader α) : (fuel : Nat) → Reader (List α)
  | 0, _ => none
  | fuel + 1, t => do
    let (a, t) ← one t
    match mark? "," t with
    | some t =>
      let (l, t) ← list? one fuel t
      return (a :: l, t)
    | none => return ([a], t)

/-- Reads something in brackets. -/
def enclosed? {α : Type} (inner : Reader α) : Reader α := fun t => do
  let t ← mark? "(" t
  let (a, t) ← inner t
  return (a, ← mark? ")" t)

/-- Reads names in brackets. -/
def names? : Reader (List String) := fun t => enclosed? (list? name? t.length) t

/-- Reads the name of a type: words, and numbers in brackets behind them. -/
def typeName (t : List Token) : String × List Token :=
  let stops := ["constraint", "primary", "not", "null", "unique", "check", "default", "collate",
    "references", "generated", "as", "deferrable"]
  let isPart : Token → Bool
    | .word s => !stops.contains (lower s)
    | .name _ _ | .text _ => true
    | _ => false
  let parts := t.takeWhile isPart
  let t := t.drop parts.length
  let text := " ".intercalate (parts.map fun
    | .word s | .name s _ | .text s => s
    | _ => "")
  if parts.isEmpty then (text, t)
  else
    match mark? "(" t with
    | some inner => (text, (inner.dropWhile (· ≠ .mark ")")).drop 1)
    | none => (text, t)

/-! ### Numbers -/

/-- The value of a number as it is written. -/
def numberValue (s : String) : Value :=
  match s.toList with
  | '0' :: x :: digits =>
    if x.toLower = 'x' then
      let n := digits.foldl (fun (n : Nat) c =>
        n * 16 + (if c.isDigit then c.toNat - 48 else c.toLower.toNat - 87)) 0
      .integer (if greatestInteger < n then (n : Int) - integerCount else n)
    else ((spelled? s.toList).map (·.value)).getD .null
  | cs => ((spelled? cs).map (·.value)).getD .null

/-! ### Operators -/

/-- The operators that bind on a level, as marks. -/
def markOps : (level : Nat) → List (String × BinaryOp)
  | 3 => [("=", .equal), ("==", .equal), ("<>", .unequal), ("!=", .unequal)]
  | 4 => [("<", .less), ("<=", .atMost), (">", .greater), (">=", .atLeast)]
  | 5 => [("&", .bitAnd), ("|", .bitOr), ("<<", .shiftLeft), (">>", .shiftRight)]
  | 6 => [("+", .add), ("-", .subtract)]
  | 7 => [("*", .multiply), ("/", .divide), ("%", .remainder)]
  | 8 => [("||", .join)]
  | _ => []

/-- Reads an operator between two values. -/
def binaryOp? (level : Nat) : Reader BinaryOp
  | .mark m :: t => ((markOps level).lookup m).map (·, t)
  | .word w :: t =>
    match level, lower w with
    | 0, "or" => some (.or, t)
    | 1, "and" => some (.and, t)
    | 3, "is" =>
      match words? ["not", "distinct", "from"] t, words? ["distinct", "from"] t, word? "not" t with
      | some t, _, _ => some (.is, t)
      | none, some t, _ => some (.isNot, t)
      | none, none, some t => some (.isNot, t)
      | none, none, none => some (.is, t)
    | _, _ => none
  | _ => none

/-- The level on which nothing but a value with a sign is read. -/
def signLevel : Nat := 10

/-- How a join is said, and what follows. -/
def joinWord? (t : List Token) : Option ((JoinKind × Bool) × List Token) :=
  match mark? "," t with
  | some t => some ((.inner, false), t)
  | none =>
    let said := t.takeWhile fun
      | .word s => joinWords.contains (lower s)
      | _ => false
    match word? "join" (t.drop said.length) with
    | some rest =>
      let has := fun (w : String) => said.any (·.folded = .word w)
      let kind := if has "full" || (has "left" && has "right") then .full
        else if has "left" then .left else if has "right" then .right else .inner
      some ((kind, has "natural"), rest)
    | none => none

/-- Reads what is done when a row breaks a rule. -/
def rule? : Reader Rule
  | .word s :: t =>
    ([("abort", Rule.abort), ("fail", .abort), ("rollback", .abort), ("ignore", .ignore),
      ("replace", .replace)].lookup (lower s)).map (·, t)
  | _ => none

/-- What is read of a column: from which table it is, and its name. -/
def columnOf : List Token → Expr
  | [.name s isDouble] => .column none s isDouble
  | [.word s] => .column none s false
  | [q, n] => .column (some (text q)) (text n) false
  | [_, q, n] => .column (some (text q)) (text n) false
  | _ => .value .null
where
  /-- The text of a name. -/
  text : Token → String
    | .word s | .name s _ | .text s => s
    | _ => ""

/-- The tokens of a name, and of those in front of it that are divided by points. -/
def path? : (depth : Nat) → Reader (List Token)
  | 0, _ => none
  | depth + 1, t => do
    let (_, rest) ← name? t
    let first := t.take 1
    match mark? "." rest with
    | some inner =>
      match path? depth inner with
      | some (more, rest) => return (first ++ more, rest)
      | none => return (first, rest)
    | none => return (first, rest)

/-! ### Expressions and queries -/

mutual

/-- Reads an expression whose operators bind on a level or more tightly. -/
def expr? : (fuel level : Nat) → Reader Expr
  | 0, _, _ => none
  | fuel + 1, level, t =>
    if level = 2 then
      match word? "not" t with
      | some t => (expr? fuel 2 t).map fun (e, t) => (.unary .not e, t)
      | none => expr? fuel 3 t
    else if level = signLevel then
      match t with
      | .mark "-" :: t => (expr? fuel signLevel t).map fun (e, t) => (.unary .minus e, t)
      | .mark "+" :: t => (expr? fuel signLevel t).map fun (e, t) => (.unary .plus e, t)
      | .mark "~" :: t => (expr? fuel signLevel t).map fun (e, t) => (.unary .complement e, t)
      | t => atom? fuel t
    else do
      let (a, t) ← expr? fuel (level + 1) t
      rest? fuel level a t

/-- Reads what follows an expression on a level. -/
def rest? : (fuel level : Nat) → Expr → Reader Expr
  | 0, _, _, _ => none
  | fuel + 1, level, a, t =>
    match binaryOp? level t with
    | some (op, t) => do
      let (b, t) ← expr? fuel (level + 1) t
      rest? fuel level (.binary op a b) t
    | none =>
      if level = 9 then
        match word? "collate" t with
        | some t => do
          let (n, t) ← name? t
          rest? fuel level (.collate a n) t
        | none => some (a, t)
      else if level = 3 then
        let (isNot, t') := optional "not" t
        let wrap := fun e => if isNot then Expr.unary .not e else e
        match t' with
        | .word w :: t'' =>
          match lower w with
          | "isnull" => if isNot then none else rest? fuel level (.unary .isNull a) t''
          | "notnull" =>
            if isNot then none else rest? fuel level (.unary .not (.unary .isNull a)) t''
          | "null" =>
            if isNot then rest? fuel level (.unary .not (.unary .isNull a)) t'' else some (a, t)
          | "between" => do
            let (low, t) ← expr? fuel 4 t''
            let t ← word? "and" t
            let (high, t) ← expr? fuel 4 t
            rest? fuel level (wrap (.between a low high)) t
          | "in" =>
            match mark? "(" t'' with
            | some inner =>
              match mark? ")" inner with
              | some t => rest? fuel level (wrap (.among a [])) t
              | none =>
                match select? fuel inner with
                | some (s, t) => do
                  let t ← mark? ")" t
                  rest? fuel level (wrap (.amongRows a s)) t
                | none => do
                  let (l, t) ← list? (expr? fuel 0) inner.length inner
                  let t ← mark? ")" t
                  rest? fuel level (wrap (.among a l)) t
            | none => do
              let (n, t) ← name? t''
              let s := Select.mk (.query false [.all] [.mk .inner false (.table n) none none []] none
                [] none) [] [] none none
              rest? fuel level (wrap (.amongRows a s)) t
          | "like" | "glob" => do
            let (p, t) ← expr? fuel 5 t''
            match word? "escape" t with
            | some t =>
              let (e, t) ← expr? fuel 5 t
              rest? fuel level (wrap (.like (lower w = "glob") a p (some e))) t
            | none => rest? fuel level (wrap (.like (lower w = "glob") a p none)) t
          | _ => if isNot then none else some (a, t)
        | _ => if isNot then none else some (a, t)
      else some (a, t)

/-- Reads an expression without operators. -/
def atom? : (fuel : Nat) → Reader Expr
  | 0, _ => none
  | fuel + 1, t =>
    match t with
    | .number n :: t => some (.value (numberValue n), t)
    | .text s :: t =>
      if (mark? "." t).isSome then path? 3 (.text s :: t) |>.map fun (p, t) => (columnOf p, t)
      else some (.value (.text (bytesOf s)), t)
    | .blob b :: t => some (.value (.blob b), t)
    | .mark "(" :: t =>
      match select? fuel t with
      | some (s, t) => (mark? ")" t).map fun t => (.scalar s, t)
      | none => do
        let (e, t) ← expr? fuel 0 t
        return (e, ← mark? ")" t)
    | .word w :: t' =>
      match lower w with
      | "null" => some (.value .null, t')
      | "true" => some (.value (.integer 1), t')
      | "false" => some (.value (.integer 0), t')
      | "exists" => do
        let t ← mark? "(" t'
        let (s, t) ← select? fuel t
        return (.exists s, ← mark? ")" t)
      | "case" => do
        let (base, t) := if (word? "when" t').isSome then (none, t')
          else match expr? fuel 0 t' with
            | some (e, t) => (some e, t)
            | none => (none, t')
        let (arms, t) ← arms? fuel t
        match word? "else" t with
        | some t =>
          let (e, t) ← expr? fuel 0 t
          return (.case base arms (some e), ← word? "end" t)
        | none => return (.case base arms none, ← word? "end" t)
      | "cast" => do
        let t ← mark? "(" t'
        let (e, t) ← expr? fuel 0 t
        let t ← word? "as" t
        let (type, t) := typeName t
        return (.cast e type, ← mark? ")" t)
      | "raise" => do
        let t ← mark? "(" t'
        match word? "ignore" t with
        | some t => return (.raise true, ← mark? ")" t)
        | none =>
          let (_, t) ← rule? t
          let t ← mark? "," t
          let (_, t) ← expr? fuel 0 t
          return (.raise false, ← mark? ")" t)
      | _ => named? fuel t
    | t => named? fuel t

/-- Reads a column or a function of some values. -/
def named? : (fuel : Nat) → Reader Expr
  | 0, _ => none
  | fuel + 1, t => do
    let (p, t) ← path? 3 t
    match p, mark? "(" t with
    | [f], some inner =>
      let f := columnOf.text f
      match mark? "*" inner, mark? ")" inner with
      | some t, _ => return (.call (lower f) false none, ← mark? ")" t)
      | none, some t => return (.call (lower f) false (some []), t)
      | none, none =>
        let (isDistinct, inner) := optional "distinct" inner
        let (l, t) ← list? (expr? fuel 0) inner.length inner
        return (.call (lower f) isDistinct (some l), ← mark? ")" t)
    | p, none => return (columnOf p, t)
    | _, some _ => none

/-- Reads the cases of an expression. -/
def arms? : (fuel : Nat) → Reader (List (Expr × Expr))
  | 0, _ => none
  | fuel + 1, t => do
    let t ← word? "when" t
    let (c, t) ← expr? fuel 0 t
    let t ← word? "then" t
    let (e, t) ← expr? fuel 0 t
    if (word? "when" t).isSome then
      let (l, t) ← arms? fuel t
      return ((c, e) :: l, t)
    else return ([(c, e)], t)

/-- Reads a query. -/
def select? : (fuel : Nat) → Reader Select
  | 0, _ => none
  | fuel + 1, t => do
    let (first, t) ← core? fuel t
    let (more, t) ← moreCores? fuel t
    let (order, t) ← match words? ["order", "by"] t with
      | some t => list? (term? fuel) t.length t
      | none => some ([], t)
    match word? "limit" t with
    | none => return (.mk first more order none none, t)
    | some t =>
      let (limit, t) ← expr? fuel 0 t
      match word? "offset" t, mark? "," t with
      | some t, _ =>
        let (offset, t) ← expr? fuel 0 t
        return (.mk first more order (some limit) (some offset), t)
      | none, some t =>
        let (count, t) ← expr? fuel 0 t
        return (.mk first more order (some count) (some limit), t)
      | none, none => return (.mk first more order (some limit) none, t)

/-- Reads what rows are ordered by. -/
def term? : (fuel : Nat) → Reader Term
  | 0, _ => none
  | fuel + 1, t => do
    let (e, t) ← expr? fuel 0 t
    let (isUp, t) := optional "asc" t
    let (isDown, t) := if isUp then (false, t) else optional "desc" t
    match words? ["nulls", "first"] t, words? ["nulls", "last"] t with
    | some t, _ => return (.mk e isDown (some false), t)
    | none, some t => return (.mk e isDown (some true), t)
    | none, none => return (.mk e isDown none, t)

/-- Reads the queries that are put together with one in front of them. -/
def moreCores? : (fuel : Nat) → Reader (List (SetOp × Core))
  | 0, _ => none
  | fuel + 1, t =>
    let op := match words? ["union", "all"] t, word? "union" t, word? "intersect" t,
        word? "except" t with
      | some t, _, _, _ => some (SetOp.unionAll, t)
      | none, some t, _, _ => some (.union, t)
      | none, none, some t, _ => some (.intersect, t)
      | none, none, none, some t => some (.except, t)
      | none, none, none, none => none
    match op with
    | none => some ([], t)
    | some (op, t) => do
      let (c, t) ← core? fuel t
      let (l, t) ← moreCores? fuel t
      return ((op, c) :: l, t)

/-- Reads a query without an order. -/
def core? : (fuel : Nat) → Reader Core
  | 0, _ => none
  | fuel + 1, t =>
    match word? "values" t with
    | some t => do
      let row := fun t => enclosed? (list? (expr? fuel 0) t.length) t
      let (l, t) ← list? row t.length t
      return (.rows l, t)
    | none => do
      let t ← word? "select" t
      let (isDistinct, t) := optional "distinct" t
      let t := if isDistinct then t else (optional "all" t).2
      let (results, t) ← list? (result? fuel) t.length t
      let (joins, t) ← match word? "from" t with
        | some t => joins? fuel .inner false t
        | none => some ([], t)
      let (filter, t) ← match word? "where" t with
        | some t => (expr? fuel 0 t).map fun (e, t) => (some e, t)
        | none => some (none, t)
      let (groups, t) ← match words? ["group", "by"] t with
        | some t => list? (expr? fuel 0) t.length t
        | none => some ([], t)
      let (having, t) ← match word? "having" t with
        | some t => (expr? fuel 0 t).map fun (e, t) => (some e, t)
        | none => some (none, t)
      return (.query isDistinct results joins filter groups having, t)

/-- Reads a column of what is asked for, or several. -/
def result? : (fuel : Nat) → Reader Result
  | 0, _ => none
  | fuel + 1, t =>
    match mark? "*" t with
    | some t => some (.all, t)
    | none =>
      match name? t with
      | some (n, rest) =>
        match (mark? "." rest).bind (mark? "*") with
        | some t => some (.allOf n, t)
        | none => plain? fuel t
      | none => plain? fuel t

/-- Reads an expression with a name for it. -/
def plain? : (fuel : Nat) → Reader Result
  | 0, _ => none
  | fuel + 1, t => do
    let (e, t) ← expr? fuel 0 t
    let (a, t) := alias? t
    return (.one e a, t)

/-- Reads tables that are put side by side. -/
def joins? : (fuel : Nat) → JoinKind → Bool → Reader (List Join)
  | 0, _, _, _ => none
  | fuel + 1, kind, isNatural, t => do
    let (origin, t) ← match mark? "(" t with
      | some inner => (select? fuel inner).bind fun (s, t) =>
          (mark? ")" t).map fun t => (Origin.select s, t)
      | none => (path? 2 t).map fun (p, t) =>
          (Origin.table (columnOf.text (p.getLastD (.mark ""))), t)
    let (a, t) := alias? t
    let t := (words? ["not", "indexed"] t).getD t
    let (condition, t) ← match word? "on" t with
      | some t => (expr? fuel 0 t).map fun (e, t) => (some e, t)
      | none => some (none, t)
    let (shared, t) ← match word? "using" t with
      | some t => names? t
      | none => some ([], t)
    let j := Join.mk kind isNatural origin a condition shared
    match joinWord? t with
    | some ((kind, isNatural), t) =>
      let (l, t) ← joins? fuel kind isNatural t
      return (j :: l, t)
    | none => return ([j], t)

end

/-- Fuel enough to read some tokens. -/
def fuelFor (t : List Token) : Nat := 16 * t.length + 64

/-- Reads an expression. -/
def expression? : Reader Expr := fun t => expr? (fuelFor t) 0 t

/-- Reads a query. -/
def query? : Reader Select := fun t => select? (fuelFor t) t

/-! ### Changes -/

/-- Reads what a column becomes. -/
def set? : Reader (String × Expr) := fun t => do
  let (n, t) ← name? t
  let (e, t) ← expression? (← mark? "=" t)
  return ((n, e), t)

/-- Reads what has to hold for a row. -/
def filter? : Reader (Option Expr) := fun t =>
  match word? "where" t with
  | some t => (expression? t).map fun (e, t) => (some e, t)
  | none => some (none, t)

/-- Reads what happens to rows that are there already. -/
def upserts? : (fuel : Nat) → Reader (List Upsert)
  | 0, _ => none
  | fuel + 1, t =>
    match words? ["on", "conflict"] t with
    | none => some ([], t)
    | some t => do
      let (target, t) ← match mark? "(" t with
        | some _ => (enclosed? (list? expression? t.length) t).map fun (l, t) => (some l, t)
        | none => some (none, t)
      let (targetFilter, t) ← filter? t
      let t ← word? "do" t
      match word? "nothing" t with
      | some t =>
        let (l, t) ← upserts? fuel t
        return (⟨target, targetFilter, none, none⟩ :: l, t)
      | none =>
        let t ← words? ["update", "set"] t
        let (sets, t) ← list? set? t.length t
        let (filter, t) ← filter? t
        let (l, t) ← upserts? fuel t
        return (⟨target, targetFilter, some sets, filter⟩ :: l, t)

/-- Reads which rule a change follows. -/
def orRule? : Reader (Option Rule) := fun t =>
  match word? "or" t with
  | some t => (rule? t).map fun (r, t) => (some r, t)
  | none => some (none, t)

/-- Reads a change. -/
def change? : Reader Change := fun t =>
  match t with
  | .word w :: rest =>
    match lower w with
    | "insert" | "replace" => do
      let (rule, t) ← if lower w = "replace" then some (some Rule.replace, rest) else orRule? rest
      let t ← word? "into" t
      let (p, t) ← path? 2 t
      let (_, t) := match word? "as" t with
        | some _ => alias? t
        | none => (none, t)
      let (columns, t) ← match mark? "(" t with
        | some _ => (names? t).map fun (l, t) => (some l, t)
        | none => some (none, t)
      let table := columnOf.text (p.getLastD (.mark ""))
      match words? ["default", "values"] t with
      | some t => return (.insert rule table columns none [], t)
      | none =>
        let (s, t) ← query? t
        let (upserts, t) ← upserts? t.length.succ t
        return (.insert rule table columns (some s) upserts, t)
    | "update" => do
      let (rule, t) ← orRule? rest
      let (p, t) ← path? 2 t
      let t ← word? "set" t
      let (sets, t) ← list? set? t.length t
      let (filter, t) ← filter? t
      return (.update rule (columnOf.text (p.getLastD (.mark ""))) sets filter, t)
    | "delete" => do
      let (p, t) ← path? 2 (← word? "from" rest)
      let (filter, t) ← filter? t
      return (.delete (columnOf.text (p.getLastD (.mark ""))) filter, t)
    | _ => (query? t).map fun (s, t) => (.select s, t)
  | _ => none

end GameFixes.Database.Grammar
