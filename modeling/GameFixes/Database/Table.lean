import GameFixes.Database.Expression

/-!
# Tables

Tables with their columns, keys and rules, what is seen through queries as if it were a table, and
what is done by itself when rows change. Names do not differ by case.
-/

namespace GameFixes.Database

/-! ### Tables -/

/-- A column of a table. -/
structure Column where
  name : String
  type : String := ""
  affinity : Affinity := .blob
  collation : Collation := .binary
  /-- What happens to a row in which this is null, if that breaks a rule. -/
  required : Option Rule := none
  default : Option Expr := none
  /-- What the cell is computed from, and whether the result is kept. -/
  computed : Option (Expr × Bool) := none

/-- A part of a key. -/
inductive KeyPart
  | column (name : String) (collation : Option Collation)
  | expr (e : Expr) (collation : Option Collation)

/-- Columns by which rows are found. -/
structure Key where
  name : String := ""
  parts : List KeyPart
  isUnique : Bool
  /-- Which rows have the key. -/
  filter : Option Expr := none
  /-- What happens to a row whose key is there already. -/
  rule : Rule := .abort
  isPrimary : Bool := false
  /-- Whether it was made for itself, and not with its table. -/
  isIndex : Bool := false

/-- What happens to rows that refer to a row that goes away. -/
inductive ForeignAction
  | none
  | restrict
  | cascade
  | setNull
  | setDefault
  deriving DecidableEq, Repr

/-- Columns that refer to rows of another table. -/
structure Foreign where
  columns : List String
  target : String
  targetColumns : List String
  onDelete : ForeignAction := .none
  onUpdate : ForeignAction := .none
  /-- Whether the rule only has to hold when everything is done. -/
  isDeferred : Bool := false

/-- A row: its number, and its cells. -/
structure Row where
  id : Int
  cells : List Value
  deriving DecidableEq, Repr

/-- A table. -/
structure Table where
  name : String
  columns : List Column
  /-- The column that is the number of the row. -/
  numberColumn : Option Nat := none
  numberRule : Rule := .abort
  /-- Whether numbers are never used twice. -/
  isCounted : Bool := false
  hasNumbers : Bool := true
  isStrict : Bool := false
  keys : List Key := []
  checks : List Expr := []
  foreigns : List Foreign := []
  rows : List Row := []
  /-- Whether the rows cannot be read. -/
  isBroken : Bool := false

/-- Whether two names are the same. -/
def sameName (a b : String) : Bool := lower a = lower b

namespace Table

/-- Where a column stands. -/
def position? (t : Table) (name : String) : Option Nat :=
  t.columns.findIdx? fun c => sameName c.name name

/-- The column with a name. -/
def column? (t : Table) (name : String) : Option Column :=
  t.columns.find? fun c => sameName c.name name

/-- The cell of a row in a column. -/
def cell? (t : Table) (r : Row) (name : String) : Option Value :=
  (t.position? name).bind fun i => r.cells[i]?

/-- The table with other rows. -/
def withRows (t : Table) (rows : List Row) : Table := { t with rows := rows }

/-- The columns of the primary key. -/
def primaryColumns (t : Table) : List String :=
  match t.numberColumn with
  | some i => (t.columns[i]?).toList.map (·.name)
  | none =>
    match t.keys.find? (·.isPrimary) with
    | some k => k.parts.filterMap fun
      | .column n _ => some n
      | .expr _ _ => none
    | none => []

end Table

/-! ### Views and triggers -/

/-- A query that is seen as if it were a table. -/
structure View where
  name : String
  columns : Option (List String)
  query : Select

/-- When a trigger does something: before a change, after it, or instead of it. -/
inductive TriggerTime
  | before
  | after
  | instead
  deriving DecidableEq, Repr

/-- The changes for which there are triggers. -/
inductive TriggerEvent
  | insert
  | delete
  /-- Of some columns, or of any. -/
  | update (columns : Option (List String))
  deriving DecidableEq, Repr

/-- What is done by itself when a row of a table changes. -/
structure Trigger where
  name : String
  table : String
  time : TriggerTime
  event : TriggerEvent
  condition : Option Expr
  body : List Change

/-! ### Databases -/

/-- How something is said to be there: what kind of thing it is, its name, the table that it belongs
to, and its definition. -/
structure Entry where
  kind : String
  name : String
  table : String
  definition : Option String
  deriving DecidableEq, Repr

end Database

/-- Tables and what belongs to them. -/
structure Database where
  entries : List Database.Entry := []
  tables : List Database.Table := []
  views : List Database.View := []
  triggers : List Database.Trigger := []
  /-- The names of tables of which nothing is known but that they are there. -/
  strangers : List String := []

namespace Database

/-- The table with a name. -/
def table? (d : Database) (name : String) : Option Table :=
  d.tables.find? fun t => sameName t.name name

/-- The view with a name. -/
def view? (d : Database) (name : String) : Option View :=
  d.views.find? fun v => sameName v.name name

/-- Puts a table into a list, in place of the one with its name or at the end. -/
def putIn (t : Table) : List Table → List Table
  | [] => [t]
  | u :: l => if sameName u.name t.name then t :: l else u :: putIn t l

/-- The database with a table in place of the one with its name, or besides. -/
def putTable (d : Database) (t : Table) : Database := { d with tables := putIn t d.tables }

/-- Whether there is something with a name that can be asked for rows. -/
def knows (d : Database) (name : String) : Bool :=
  (d.table? name).isSome || (d.view? name).isSome || d.strangers.any (sameName name)

/-- Whether there is an index with a name. -/
def hasIndex (d : Database) (name : String) : Bool :=
  d.entries.any fun e => e.kind = "index" && sameName e.name name

end Database

end GameFixes
