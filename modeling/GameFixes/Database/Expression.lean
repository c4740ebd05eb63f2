import GameFixes.Database.Value

/-!
# Expressions and statements

What is computed from the cells of rows, which rows are asked for, and what is done to them.
-/

namespace GameFixes.Database

/-- What is done to one value. -/
inductive UnaryOp
  | plus
  | minus
  | not
  | complement
  | isNull
  deriving DecidableEq, Repr

/-- What is done to two values. -/
inductive BinaryOp
  | or
  | and
  | equal
  | unequal
  | less
  | atMost
  | greater
  | atLeast
  /-- Equality for which null is a value like others. -/
  | is
  | isNot
  | bitAnd
  | bitOr
  | shiftLeft
  | shiftRight
  | add
  | subtract
  | multiply
  | divide
  | remainder
  | join
  deriving DecidableEq, Repr

/-- How rows of two tables are put side by side. -/
inductive JoinKind
  | inner
  /-- Rows on the left without a partner stay. -/
  | left
  /-- Rows on the right without a partner stay. -/
  | right
  | full
  deriving DecidableEq, Repr

/-- How the rows of two queries are put together. -/
inductive SetOp
  | unionAll
  | union
  | intersect
  | except
  deriving DecidableEq, Repr

mutual

/-- What is computed from the cells of rows. -/
inductive Expr
  | value (v : Value)
  /-- A cell; a loose name stands for itself as a text where no column has it. -/
  | column (source : Option String) (name : String) (isLoose : Bool)
  | unary (op : UnaryOp) (e : Expr)
  | binary (op : BinaryOp) (a b : Expr)
  | between (e low high : Expr)
  | among (e : Expr) (l : List Expr)
  | amongRows (e : Expr) (s : Select)
  | exists (s : Select)
  | scalar (s : Select)
  | like (isGlob : Bool) (e pattern : Expr) (escape : Option Expr)
  | case (base : Option Expr) (arms : List (Expr × Expr)) (last : Option Expr)
  /-- A function of some values, or of a row as a whole. -/
  | call (name : String) (isDistinct : Bool) (args : Option (List Expr))
  | cast (e : Expr) (type : String)
  | collate (e : Expr) (name : String)
  /-- Ends a change: without success, or as if there were nothing to do. -/
  | raise (isIgnored : Bool)

/-- Which rows are asked for. -/
inductive Select
  | mk (first : Core) (more : List (SetOp × Core)) (order : List Term)
    (limit offset : Option Expr)

/-- A query without an order. -/
inductive Core
  | rows (l : List (List Expr))
  | query (isDistinct : Bool) (results : List Result) (joins : List Join) (filter : Option Expr)
    (groups : List Expr) (having : Option Expr)

/-- A column of what is asked for, or several. -/
inductive Result
  | all
  | allOf (source : String)
  | one (e : Expr) (nickname : Option String)

/-- A table that is asked, put beside those in front of it. -/
inductive Join
  | mk (kind : JoinKind) (isNatural : Bool) (source : Origin) (nickname : Option String)
    (condition : Option Expr) (shared : List String)

/-- Where rows come from. -/
inductive Origin
  | table (name : String)
  | select (s : Select)

/-- What rows are ordered by. -/
inductive Term
  | mk (e : Expr) (isDown : Bool) (nullsLast : Option Bool)

end

instance : Inhabited Expr := ⟨.value .null⟩

/-- What happens to a row that breaks a rule. -/
inductive Rule
  /-- The whole change ends without success. -/
  | abort
  | ignore
  /-- What stands in its way is removed. -/
  | replace
  deriving DecidableEq, Repr

/-- What happens to a row that is there already. -/
structure Upsert where
  /-- The columns in which a row is the same; any will do if there are none. -/
  target : Option (List Expr)
  targetFilter : Option Expr := none
  /-- What changes in the row that is there; without that, nothing. -/
  sets : Option (List (String × Expr))
  filter : Option Expr := none

/-- What is done to rows. -/
inductive Change
  /-- New rows, with values of some columns or of all. Without a query, it is a row of defaults. -/
  | insert (rule : Option Rule) (table : String) (columns : Option (List String))
    (source : Option Select) (upserts : List Upsert)
  | update (rule : Option Rule) (table : String) (sets : List (String × Expr))
    (filter : Option Expr)
  | delete (table : String) (filter : Option Expr)
  | select (s : Select)

end GameFixes.Database
