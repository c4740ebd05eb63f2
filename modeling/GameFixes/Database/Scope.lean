import GameFixes.Database.Operation
import GameFixes.Database.Table

/-!
# Scopes

Which columns can be named at some point of a statement, and what they hold. Inner tables are looked
at before outer ones.
-/

namespace GameFixes.Database

/-- A table whose columns can be named, with the cells of one of its rows. -/
structure Source where
  name : String
  columns : List Column
  hasNumbers : Bool := true
  /-- Whether its columns are only found under its name. -/
  isApart : Bool := false
  /-- Columns that are only found under its name, because another table has them too. -/
  shared : List String := []
  cells : List Value := []
  number : Value := .null

/-- The tables of one query. -/
structure Frame where
  sources : List Source
  /-- What is asked for under names of its own. -/
  aliases : List (String × Expr) := []
  /-- The rows that are put together to one. -/
  group : Option (List (List Source)) := none

/-- The frames of queries in each other, the innermost first. -/
abbrev Scope := List Frame

/-- What is known about a cell. -/
structure Cell where
  value : Value
  affinity : Option Affinity := none
  collation : Option Collation := none

/-- What comes of looking for a name. -/
inductive Lookup
  | cell (c : Cell)
  | nickname (e : Expr)
  | missing
  /-- It is more than one thing. -/
  | unclear

namespace Source

/-- The source that a row of a table is. -/
def ofRow (t : Table) (nickname : Option String) (r : Row) : Source :=
  { name := nickname.getD t.name, columns := t.columns, hasNumbers := t.hasNumbers
    cells := r.cells, number := .integer r.id }

/-- The source without a row. -/
def missing (s : Source) : Source :=
  { s with cells := s.columns.map fun _ => .null, number := .null }

/-- The cell with an index. -/
def cell (s : Source) (i : Nat) (c : Column) : Cell :=
  ⟨s.cells[i]?.getD .null, some c.affinity, some c.collation⟩

/-- The columns with a name. -/
def find (s : Source) (qualifier : Option String) (name : String) : List Cell :=
  let isMeant := match qualifier with
    | some q => sameName q s.name
    | none => !s.isApart && !s.shared.any (sameName name)
  if isMeant then
    s.columns.zipIdx.filterMap fun (c, i) =>
      if sameName c.name name then some (s.cell i c) else none
  else []

end Source

/-- The names that the number of a row has. -/
def numberNames : List String := ["rowid", "oid", "_rowid_"]

/-- What a name means in a frame. -/
def Frame.find (f : Frame) (qualifier : Option String) (name : String) : Lookup :=
  match f.sources.flatMap (·.find qualifier name) with
  | [c] => .cell c
  | _ :: _ => .unclear
  | [] =>
    let known := f.sources.filter fun s =>
      match qualifier with
      | some q => sameName q s.name
      | none => !s.isApart
    match known with
    | [s] =>
      if numberNames.contains (lower name) && s.hasNumbers then
        .cell ⟨s.number, some .integer, none⟩
      else byAlias
    | _ => byAlias
where
  /-- What a name means as one for what is asked for. -/
  byAlias : Lookup :=
    match qualifier, f.aliases.find? fun a => sameName a.1 name with
    | none, some a => .nickname a.2
    | _, _ => .missing

/-- What a name means, and the scope in which it means that. -/
def Scope.find (qualifier : Option String) (name : String) : Scope → Lookup × Scope
  | [] => (.missing, [])
  | f :: fs =>
    match f.find qualifier name with
    | .missing => Scope.find qualifier name fs
    | l => (l, f :: fs)

end GameFixes.Database
