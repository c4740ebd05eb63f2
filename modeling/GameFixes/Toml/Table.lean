/-!
# TOML tables

What a TOML text says, with what is needed to refuse a second definition of a table: how each table
came to be. Fields are added along a path of keys, which creates the tables on its way.
-/

namespace GameFixes.Toml

/-- How a table came to be. -/
inductive Origin
  /-- By a header of its own; the outermost table counts as such. -/
  | header
  /-- On the way of a header. -/
  | implied
  /-- On the way of a dotted key. -/
  | dotted
  /-- Between braces. -/
  | inline
  deriving DecidableEq, Repr

/-- What a key stands for. -/
inductive Item
  | string (value : String)
  /-- A number or a truth value. -/
  | scalar
  /-- A date, a time or both. -/
  | moment
  | array (items : List Item)
  | table (origin : Origin) (fields : List (String × Item))
  /-- An array of tables, each of which has a header. -/
  | tables (elements : List (List (String × Item)))
  deriving Repr

/-- The fields of a table. -/
abbrev Fields := List (String × Item)

/-- What a key stands for in a table. -/
def Fields.get? (fs : Fields) (k : String) : Option Item := (fs.find? (·.1 = k)).map (·.2)

/-- A table in which a key that is there stands for something else. -/
def Fields.replace (fs : Fields) (k : String) (item : Item) : Fields :=
  fs.map fun e => if e.1 = k then (k, item) else e

/-- The tables on the way of a dotted key must not have headers of their own or braces; those on the
way of a header must not have braces. -/
def Origin.admits (byDots : Bool) : Origin → Bool
  | .header => !byDots
  | .implied | .dotted => true
  | .inline => false

/-- Changes the table at the end of a path by `f`, which is told how that table came to be. Tables
that are missing on the way are created. -/
def descend (byDots : Bool) (f : Origin → Fields → Option Fields) :
    (path : List String) → Origin → Fields → Option Fields
  | [], own, fs => f own fs
  | k :: path, _, fs =>
    match fs.get? k with
    | none =>
      let origin := if byDots then .dotted else .implied
      (descend byDots f path origin []).map fun sub => fs ++ [(k, .table origin sub)]
    | some (.table origin sub) =>
      if origin.admits byDots then
        (descend byDots f path origin sub).map fun sub => fs.replace k (.table origin sub)
      else none
    | some (.tables elements) =>
      match elements.getLast? with
      | none => none
      | some last =>
        (descend byDots f path .header last).map fun last =>
          fs.replace k (.tables (elements.dropLast ++ [last]))
    | some _ => none

/-- Adds a new field behind a dotted key with the path `path`. A table that has a header or braces
takes no fields by dotted keys. -/
def addField (path : List String) (k : String) (item : Item) : Origin → Fields → Option Fields :=
  descend true (fun own fs =>
    if (own == .dotted) == path.isEmpty then none
    else if (fs.get? k).isSome then none
    else some (fs ++ [(k, item)])) path

/-- Defines a table by its header. -/
def openTable (path : List String) (k : String) : Fields → Option Fields :=
  descend false (fun _ fs =>
    match fs.get? k with
    | none => some (fs ++ [(k, .table .header [])])
    | some (.table .implied sub) => some (fs.replace k (.table .header sub))
    | some _ => none) path .header

/-- Adds an element to an array of tables by its header. -/
def openElement (path : List String) (k : String) : Fields → Option Fields :=
  descend false (fun _ fs =>
    match fs.get? k with
    | none => some (fs ++ [(k, .tables [[]])])
    | some (.tables elements) => some (fs.replace k (.tables (elements ++ [[]])))
    | some _ => none) path .header

/-- Adds a field to the table that was opened last, at `table`. -/
def addUnder (table path : List String) (k : String) (item : Item) : Fields → Option Fields :=
  descend false (addField path k item) table .header

end GameFixes.Toml
