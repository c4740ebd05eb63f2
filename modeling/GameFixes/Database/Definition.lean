import GameFixes.Database.Grammar
import GameFixes.Database.Table

/-!
# Definitions

How tables, indexes, views and triggers are defined by texts. A column that is the whole primary key
and holds integers is the number of its row.
-/

namespace GameFixes.Database

open Grammar

/-- What a text defines. -/
inductive Definition
  | table (t : Table)
  /-- A key of a table that is there already. -/
  | index (table : String) (k : Key)
  | view (v : View)
  | trigger (t : Trigger)
  /-- A table whose rows are kept by someone else. -/
  | stranger (name : String)

namespace Definition

/-! ### Columns -/

/-- What is said about a column behind its type. -/
inductive Clause
  | primary (isDown : Bool) (rule : Rule) (isCounted : Bool)
  | required (rule : Rule)
  | unique (rule : Rule)
  | check (e : Expr)
  | default (e : Expr)
  | collate (c : Collation)
  | foreign (f : Foreign)
  | computed (e : Expr) (isStored : Bool)
  /-- Something that changes nothing. -/
  | nothing

/-- Reads what happens to a row that breaks a rule. -/
def onConflict (t : List Token) : Rule × List Token :=
  match words? ["on", "conflict"] t with
  | some rest => (rule? rest).getD (.abort, t)
  | none => (.abort, t)

/-- Reads what happens to rows that refer to one that goes away. -/
def action? : Reader ForeignAction := fun t =>
  match words? ["set", "null"] t, words? ["set", "default"] t, word? "cascade" t,
      word? "restrict" t, words? ["no", "action"] t with
  | some t, _, _, _, _ => some (.setNull, t)
  | none, some t, _, _, _ => some (.setDefault, t)
  | none, none, some t, _, _ => some (.cascade, t)
  | none, none, none, some t, _ => some (.restrict, t)
  | none, none, none, none, some t => some (.none, t)
  | _, _, _, _, _ => none

/-- Reads what is said about a reference behind its target. -/
def references? : (fuel : Nat) → Foreign → Reader Foreign
  | 0, _, _ => none
  | fuel + 1, f, t =>
    match words? ["on", "delete"] t, words? ["on", "update"] t, word? "match" t with
    | some t, _, _ => do
      let (a, t) ← action? t
      references? fuel { f with onDelete := a } t
    | none, some t, _ => do
      let (a, t) ← action? t
      references? fuel { f with onUpdate := a } t
    | none, none, some t => do
      let (_, t) ← name? t
      references? fuel f t
    | none, none, none =>
      let (isNot, t') := optional "not" t
      match word? "deferrable" t' with
      | none => some (f, t)
      | some t =>
        match words? ["initially", "deferred"] t, words? ["initially", "immediate"] t with
        | some t, _ => references? fuel { f with isDeferred := !isNot } t
        | none, some t => references? fuel f t
        | none, none => references? fuel f t

/-- Reads a reference of some columns. -/
def foreign? (columns : List String) : Reader Foreign := fun t => do
  let (target, t) ← name? t
  let (targetColumns, t) := (names? t).getD ([], t)
  references? t.length.succ ⟨columns, target, targetColumns, .none, .none, false⟩ t

/-- Reads what a cell holds if nothing is said. -/
def defaultValue? : Reader Expr := fun t =>
  match t with
  | .mark "(" :: _ => enclosed? expression? t
  | .mark "-" :: .number n :: t => some (.unary .minus (.value (numberValue n)), t)
  | .mark "+" :: .number n :: t => some (.value (numberValue n), t)
  | .word w :: t' =>
    match lower w with
    | "null" => some (.value .null, t')
    | "true" => some (.value (.integer 1), t')
    | "false" => some (.value (.integer 0), t')
    | _ => some (.value (.text (bytesOf w)), t')
  | .name s _ :: t => some (.value (.text (bytesOf s)), t)
  | t => atom? 1 t

/-- Reads one thing that is said about a column. -/
def clause? (name : String) : Reader Clause := fun t =>
  match t with
  | .word w :: t =>
    match lower w with
    | "constraint" => (name? t).map fun (_, t) => (.nothing, t)
    | "null" => some (.nothing, (onConflict t).2)
    | "not" => (word? "null" t).map fun t =>
      let (r, t) := onConflict t
      (.required r, t)
    | "unique" =>
      let (r, t) := onConflict t
      some (.unique r, t)
    | "primary" => do
      let t ← word? "key" t
      let (_, t) := optional "asc" t
      let (isDown, t) := optional "desc" t
      let (r, t) := onConflict t
      let (isCounted, t) := optional "autoincrement" t
      return (.primary isDown r isCounted, t)
    | "check" => do
      let (e, t) ← enclosed? expression? t
      return (.check e, (onConflict t).2)
    | "default" => (defaultValue? t).map fun (e, t) => (.default e, t)
    | "collate" => do
      let (n, t) ← name? t
      return (.collate (← Collation.ofName? n), t)
    | "references" => (foreign? [name] t).map fun (f, t) => (.foreign f, t)
    | "deferrable" => some (.nothing, t)
    | "generated" | "as" => do
      let t ← if lower w = "as" then some t else words? ["always", "as"] t
      let (e, t) ← enclosed? expression? t
      let (isStored, t) := optional "stored" t
      let (_, t) := optional "virtual" t
      return (.computed e isStored, t)
    | _ => none
  | _ => none

/-- Reads all that is said about a column. -/
def clauses (name : String) : (fuel : Nat) → List Token → List Clause × List Token
  | 0, t => ([], t)
  | fuel + 1, t =>
    match clause? name t with
    | some (c, t) =>
      let (l, t) := clauses name fuel t
      (c :: l, t)
    | none => ([], t)

/-- The column with some properties. -/
def column (name type : String) (l : List Clause) : Column :=
  l.foldl (fun c clause =>
    match clause with
    | .required r => { c with required := some r }
    | .default e => { c with default := some e }
    | .collate k => { c with collation := k }
    | .computed e isStored => { c with computed := some (e, isStored) }
    | _ => c) { name := name, type := type, affinity := .ofType type }

/-! ### Tables -/

/-- What is said about a table as a whole. -/
inductive TableClause
  | primary (parts : List KeyPart) (rule : Rule) (isCounted : Bool)
  | unique (parts : List KeyPart) (rule : Rule)
  | check (e : Expr)
  | foreign (f : Foreign)

/-- A key on one column. -/
def keyPart (name : String) : KeyPart := .column name none

/-- Reads a part of a key. -/
def part? : Reader KeyPart := fun t => do
  let (e, t) ← expression? t
  let (_, t) := optional "asc" t
  let (_, t) := optional "desc" t
  return (of e, t)
where
  /-- The part that an expression says. -/
  of : Expr → KeyPart
    | .collate (.column none n _) c => .column n (Collation.ofName? c)
    | .column none n _ => .column n none
    | .value (.text bytes) => .column (stringOfLossy bytes) none
    | .collate e c => .expr e (Collation.ofName? c)
    | e => .expr e none

/-- Reads one thing that is said about a table as a whole. -/
def tableClause? : Reader TableClause := fun t => do
  let t := match word? "constraint" t with
    | some t =>
      match name? t with
      | some (_, t) => t
      | none => t
    | none => t
  match t with
  | .word w :: t =>
    match lower w with
    | "primary" =>
      let t ← word? "key" t
      let t ← mark? "(" t
      let (l, t) ← list? part? t.length t
      let (isCounted, t) := optional "autoincrement" t
      let t ← mark? ")" t
      let (r, t) := onConflict t
      return (.primary l r isCounted, t)
    | "unique" =>
      let (l, t) ← enclosed? (list? part? t.length) t
      let (r, t) := onConflict t
      return (.unique l r, t)
    | "check" =>
      let (e, t) ← enclosed? expression? t
      return (.check e, (onConflict t).2)
    | "foreign" =>
      let (l, t) ← names? (← word? "key" t)
      let (f, t) ← foreign? l (← word? "references" t)
      return (.foreign f, t)
    | _ => none
  | _ => none

/-- Reads columns, and what is said about the table behind them. -/
def parts? : (fuel : Nat) → Reader (List (Column × List Clause) × List TableClause)
  | 0, _ => none
  | fuel + 1, t =>
    let next := fun (t : List Token) =>
      let t := (mark? "," t).getD t
      match mark? ")" t with
      | some t => some (([], []), t)
      | none => parts? fuel t
    match tableClause? t with
    | some (c, t) => (next t).map fun ((cs, l), t) => ((cs, c :: l), t)
    | none => do
      let (name, t) ← name? t
      let (type, t) := typeName t
      let (l, t) := clauses name t.length.succ t
      let ((cs, rest), t) ← next t
      return (((column name type l, l) :: cs, rest), t)

/-- Whether a column is the number of its row if it is the whole primary key. -/
def holdsNumber (c : Column) : Bool := lower c.type = "integer"

/-- The table with what is said about one of its columns. -/
def withClause (i : Nat) (c : Column) (t : Table) : Clause → Option Table
  | .primary isDown r isCounted =>
    if holdsNumber c && !isDown && t.hasNumbers then
      some { t with numberColumn := some i, numberRule := r, isCounted := isCounted }
    else if isCounted then none
    else some { t with
      keys := t.keys ++ [{ parts := [keyPart c.name], isUnique := true, rule := r, isPrimary := true }] }
  | .unique r =>
    some { t with keys := t.keys ++ [{ parts := [keyPart c.name], isUnique := true, rule := r }] }
  | .check e => some { t with checks := t.checks ++ [e] }
  | .foreign f => some { t with foreigns := t.foreigns ++ [f] }
  | _ => some t

/-- The table with something that is said about it as a whole. -/
def withTableClause (t : Table) : TableClause → Option Table
  | .primary l r isCounted =>
    let plain := match l with
      | [.column n _] => (t.position? n).bind fun i =>
          (t.columns[i]?).bind fun c => if holdsNumber c && t.hasNumbers then some i else none
      | _ => none
    match plain with
    | some i => some { t with numberColumn := some i, numberRule := r, isCounted := isCounted }
    | none =>
      if isCounted then none
      else some { t with
        keys := t.keys ++ [{ parts := l, isUnique := true, rule := r, isPrimary := true }] }
  | .unique l r => some { t with keys := t.keys ++ [{ parts := l, isUnique := true, rule := r }] }
  | .check e => some { t with checks := t.checks ++ [e] }
  | .foreign f => some { t with foreigns := t.foreigns ++ [f] }

/-- Whether all parts of keys are columns that are there. -/
def hasParts (t : Table) (l : List KeyPart) : Bool :=
  l.all fun
    | .column n _ => (t.position? n).isSome
    | .expr _ _ => true

/-- The table with columns that are not null where the primary key has to be without. -/
def withRequired (t : Table) : Table :=
  if t.hasNumbers && !t.isStrict then t
  else
    let primary := t.primaryColumns
    { t with columns := t.columns.map fun c =>
        if primary.any (sameName c.name) && c.required.isNone then { c with required := some .abort }
        else c }

/-- The columns of a key with their collations, if it has nothing else. -/
def columnsOf? (t : Table) (k : Key) : Option (List (String × Collation)) :=
  k.parts.mapM fun
    | .column n c => (t.column? n).map fun own => (lower n, c.getD own.collation)
    | .expr _ _ => none

/-- The keys of a table, of which those on the same columns are one. -/
def withoutTwins (t : Table) : Table :=
  { t with keys := t.keys.foldl (fun l k =>
      match l.findIdx? fun k' => (columnsOf? t k).isSome && columnsOf? t k' = columnsOf? t k with
      | some i => l.modify i fun k' => { k' with
          rule := if k'.rule = .abort then k.rule else k'.rule
          isPrimary := k'.isPrimary || k.isPrimary }
      | none => l ++ [k]) [] }

/-- The table in which strict columns of any type take values as they are. -/
def withTypes (t : Table) : Table :=
  if t.isStrict then
    { t with columns := t.columns.map fun c =>
        if lower c.type = "any" then { c with affinity := .blob } else c }
  else t

/-- Reads a table behind its name. -/
def table? (name : String) : Reader Table := fun t => do
  let ((columns, rest), t) ← parts? t.length.succ (← mark? "(" t)
  let options := t.map Token.folded
  let hasNumbers := !options.contains (.word "without")
  let isStrict := options.contains (.word "strict")
  let start : Table :=
    { name := name, columns := columns.map (·.1), hasNumbers := hasNumbers, isStrict := isStrict }
  let own ← (columns.zipIdx).foldlM (fun t ((c, l), i) => l.foldlM (withClause i c) t) start
  let whole ← rest.foldlM withTableClause own
  if whole.keys.all fun k => hasParts whole k.parts then return (withTypes (withRequired (withoutTwins whole)), t)
  else none

/-! ### Indexes, views and triggers -/

/-- Reads an index behind its name. -/
def index? (name : String) (isUnique : Bool) : Reader (String × Key) := fun t => do
  let (owner, t) ← name? (← word? "on" t)
  let (l, t) ← enclosed? (list? part? t.length) t
  let (filter, t) ← filter? t
  return ((owner, { name, parts := l, isUnique, filter, isIndex := true }), t)

/-- Reads a view behind its name. -/
def view? (name : String) : Reader View := fun t => do
  let (columns, t) := match names? t with
    | some (l, t) => (some l, t)
    | none => (none, t)
  let (s, t) ← query? (← word? "as" t)
  return (⟨name, columns, s⟩, t)

/-- Reads changes with semicolons behind them. -/
def body? : (fuel : Nat) → Reader (List Change)
  | 0, _ => none
  | fuel + 1, t =>
    match word? "end" t with
    | some t => some ([], t)
    | none => do
      let (c, t) ← change? t
      let (l, t) ← body? fuel (← mark? ";" t)
      return (c :: l, t)

/-- Reads a trigger behind its name. -/
def trigger? (name : String) : Reader Trigger := fun t => do
  let (time, t) := match word? "before" t, word? "after" t, words? ["instead", "of"] t with
    | some t, _, _ => (TriggerTime.before, t)
    | none, some t, _ => (.after, t)
    | none, none, some t => (.instead, t)
    | none, none, none => (.before, t)
  let (event, t) ← match word? "insert" t, word? "delete" t, word? "update" t with
    | some t, _, _ => some (TriggerEvent.insert, t)
    | none, some t, _ => some (.delete, t)
    | none, none, some t =>
      match word? "of" t with
      | some t => (list? name? t.length t).map fun (l, t) => (.update (some l), t)
      | none => some (.update none, t)
    | none, none, none => none
  let (path, t) ← path? 2 (← word? "on" t)
  let t := (words? ["for", "each", "row"] t).getD t
  let (condition, t) ← match word? "when" t with
    | some t => (expression? t).map fun (e, t) => (some e, t)
    | none => some (none, t)
  let (body, t) ← body? t.length.succ (← word? "begin" t)
  return (⟨name, columnOf.text (path.getLastD (.mark "")), time, event, condition, body⟩, t)

/-! ### The whole -/

/-- The name of what is defined, with that of the database in front of it left out. -/
def definedName? : Reader String := fun t => do
  let t := (words? ["if", "not", "exists"] t).getD t
  let (p, t) ← path? 2 t
  return (columnOf.text (p.getLastD (.mark "")), t)

/-- What tokens define. -/
def ofTokens? (t : List Token) : Option Definition := do
  let t ← word? "create" t
  let t := (word? "temp" t).getD ((word? "temporary" t).getD t)
  let (isUnique, t) := optional "unique" t
  match word? "table" t, word? "index" t, word? "view" t, word? "trigger" t,
      words? ["virtual", "table"] t with
  | some t, _, _, _, _ =>
    let (n, t) ← definedName? t
    return .table (← table? n t).1
  | none, some t, _, _, _ =>
    let (n, t) ← definedName? t
    let ((owner, k), _) ← index? n isUnique t
    return .index owner k
  | none, none, some t, _, _ =>
    let (n, t) ← definedName? t
    return .view (← view? n t).1
  | none, none, none, some t, _ =>
    let (n, t) ← definedName? t
    return .trigger (← trigger? n t).1
  | none, none, none, none, some t => return .stranger (← definedName? t).1
  | none, none, none, none, none => none

/-- What a text defines. -/
def ofText? (s : String) : Option Definition :=
  (Token.all? s).bind fun t =>
    ofTokens? ((t.reverse.dropWhile (· = .mark ";")).reverse)

end Definition

end GameFixes.Database
