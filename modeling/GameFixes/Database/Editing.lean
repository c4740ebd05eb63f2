import GameFixes.Database.Query

/-!
# Editing

What a change of rows needs: the database as it is by now, references that have to be looked at when
a statement is done, and the rules that a row has to keep.
-/

namespace GameFixes.Database

/-! ### State -/

/-- A row that refers to another one: its table, its number, and which of the table's references. -/
structure Reference where
  table : String
  row : Int
  index : Nat
  deriving DecidableEq, Repr

/-- A database that is being changed. -/
structure Desk where
  database : Database
  /-- What has to be looked at when the statement is done. -/
  pending : List Reference := []
  /-- What has to be looked at when everything is done. -/
  deferred : List Reference := []
  /-- The triggers that are at work. -/
  active : List String := []
  /-- How many rows the statement itself has added or changed. -/
  changes : Nat := 0

/-- A part of a change. What was done before it ends stays. -/
abbrev Edit (α : Type) := ExceptT Stop (StateM Desk) α

namespace Edit

/-- Counts a row that is added or changed, unless a trigger does that. -/
def counted : Edit Unit :=
  modify fun s => if s.active.isEmpty then { s with changes := s.changes + 1 } else s

/-- Ends a change without success. -/
def fail {α : Type} : Edit α := throw .failed

/-- The table with a name. -/
def table (name : String) : Edit Table := do
  match (← get).database.table? name with
  | some t => if t.isBroken then fail else return t
  | none => fail

/-- Changes the rows of a table. -/
def modifyRows (name : String) (f : List Row → List Row) : Edit Unit :=
  modify fun s =>
    match s.database.table? name with
    | some t => { s with database := s.database.putTable (t.withRows (f t.rows)) }
    | none => s

/-- The value of an expression. -/
def value (s : Scope) (e : Expr) : Edit Value := do
  match eval (← get).database depthLimit s e with
  | .ok v => return v
  | .error stop => throw stop

/-- Whether an expression is true; one that is null is not. -/
def holds (s : Scope) (e : Option Expr) : Edit Bool := do
  match e with
  | none => return true
  | some e => return (← value s e).truth? = some true

/-- Does something unless the row is passed over then; the result is there unless it is. -/
def unlessIgnored {α : Type} (work : Edit α) : Edit (Option α) :=
  tryCatch (do return some (← work)) fun stop =>
    match stop with
    | .ignored => return none
    | .failed => throw .failed

end Edit

/-! ### Rows -/

/-- The scope of a row of a table. -/
def rowScope (t : Table) (r : Row) : Scope := [⟨[Source.ofRow t none r], [], none⟩]

/-- The scope of what a trigger does. -/
def triggerScope (t : Table) (old new : Option Row) : Scope :=
  let source (name : String) (r : Option Row) : List Source :=
    r.toList.map fun r => { Source.ofRow t (some name) r with isApart := true }
  [⟨source "old" old ++ source "new" new, [], none⟩]

/-- The cells of a row as the columns of its table hold them. -/
def Table.held (t : Table) (cells : List Value) : List Value :=
  (t.columns.zip cells).map fun (c, v) => c.affinity.apply v

/-- The row with the number in its column. -/
def Table.numbered (t : Table) (r : Row) : Row :=
  match t.numberColumn with
  | some i => { r with cells := r.cells.set i (.integer r.id) }
  | none => r

/-- The row with what is computed in it. -/
def Edit.computed (t : Table) (r : Row) : Edit Row :=
  t.columns.zipIdx.foldlM (fun r (c, i) => do
    match c.computed with
    | some (e, _) =>
      let v ← Edit.value (rowScope t r) e
      return { r with cells := r.cells.set i (c.affinity.apply v) }
    | none => return r) r

/-- Whether a value has the kind that a strict column asks for. -/
def Column.admits (c : Column) (v : Value) : Bool :=
  match lower c.type, v with
  | _, .null => true
  | "int", .integer _ | "integer", .integer _ | "real", .real _ | "text", .text _
  | "blob", .blob _ | "any", _ => true
  | _, _ => false

/-! ### Keys -/

/-- The part of a key in a row, and how it is compared. -/
def Edit.partValue (t : Table) (r : Row) (p : KeyPart) : Edit (Value × Collation) := do
  match p with
  | .column n c =>
    let own := ((t.column? n).map (·.collation)).getD .binary
    return ((t.cell? r n).getD .null, c.getD own)
  | .expr e c => return (← Edit.value (rowScope t r) e, c.getD .binary)

/-- What of a row belongs to a key, if it has that at all. -/
def Edit.keyValues (t : Table) (k : Key) (r : Row) : Edit (Option (List (Value × Collation))) := do
  if ← Edit.holds (rowScope t r) k.filter then return some (← k.parts.mapM (Edit.partValue t r))
  else return none

/-- Whether two rows have the same key; nothing is the same as null. -/
def sameKey (a b : List (Value × Collation)) : Bool :=
  a.length = b.length && (a.zip b).all fun ((v, c), (w, _)) => Value.same c v w

/-- The other rows with the key of a row. -/
def Edit.rivals (t : Table) (k : Key) (r : Row) (except : Option Int) : Edit (List Row) := do
  match ← Edit.keyValues t k r with
  | none => return []
  | some own =>
    t.rows.filterM fun q => do
      if some q.id = except then return false
      match ← Edit.keyValues t k q with
      | some other => return sameKey own other
      | none => return false

/-- The keys of a table in the order in which they are looked at: the newest first, and those last
that remove what stands in their way. -/
def Table.keyOrder (t : Table) : List (Key × Nat) :=
  let l := (t.keys.zipIdx.filter (·.1.isUnique)).reverse
  l.filter (·.1.rule ≠ .replace) ++ l.filter (·.1.rule = .replace)

/-- Whether a key is on some columns and nothing else. -/
def Key.isOn (k : Key) (columns : List String) : Bool :=
  k.isUnique && k.parts.length = columns.length && k.parts.all fun
    | .column n _ => columns.any (sameName n)
    | .expr _ _ => false

/-- The column that an expression is, whatever its collation. -/
def Expr.plainColumn? : Expr → Option String
  | .column none n _ => some n
  | .collate e _ => e.plainColumn?
  | _ => none

/-- In which way a row is there already: by its number or by a key with an index. -/
inductive Clash
  | number
  | key (index : Nat)
  deriving DecidableEq, Repr

/-- What an upsert is about, if that is something in which rows differ. -/
def Table.clash? (t : Table) (u : Upsert) : Option (Option Clash) :=
  match u.target with
  | none => some none
  | some l => do
    let columns ← l.mapM Expr.plainColumn?
    let isNumber := match columns, t.numberColumn with
      | [n], some i => (t.columns[i]?).any fun c => sameName c.name n
      | [n], none => t.hasNumbers && (t.position? n).isNone && numberNames.contains (lower n)
      | _, _ => false
    if isNumber && t.hasNumbers then return some .number
    let found ← t.keyOrder.find? fun (k, _) =>
      k.isOn columns && (k.filter.isNone || u.targetFilter.isSome)
    return some (.key found.2)

/-- Whether a trigger is about a change of some columns. -/
def TriggerEvent.isAbout (e : TriggerEvent) (event : TriggerEvent) (changes : String → Bool) : Bool :=
  match e, event with
  | .insert, .insert | .delete, .delete => true
  | .update none, .update _ => true
  | .update (some l), .update _ => l.any changes
  | _, _ => false

/-! ### References -/

/-- The columns to which a reference leads. -/
def Foreign.targetIn (f : Foreign) (parent : Table) : List String :=
  if f.targetColumns.isEmpty then parent.primaryColumns else f.targetColumns

/-- Whether a reference leads to columns in which rows differ. -/
def Foreign.fits (f : Foreign) (parent : Table) : Bool :=
  let target := f.targetIn parent
  let isNumber := match target, parent.numberColumn with
    | [n], some i => (parent.columns[i]?).any fun c => sameName c.name n
    | _, _ => false
  target.length = f.columns.length && (isNumber || parent.keys.any fun k =>
    k.filter.isNone && k.isOn target && k.parts.all fun
      | .column n c => match c, (parent.column? n).map (·.collation) with
        | some c, some own => c = own
        | _, _ => true
      | .expr _ _ => false)

/-- The values with which a row refers to another one, if it does. -/
def Foreign.values? (f : Foreign) (t : Table) (r : Row) : Option (List Value) :=
  let l := f.columns.map fun n => (t.cell? r n).getD .null
  if l.contains .null then none else some l

/-- Whether a row of a table is the one that some values lead to. -/
def Foreign.leadsTo (f : Foreign) (parent : Table) (l : List Value) (r : Row) : Bool :=
  ((f.targetIn parent).zip l).all fun (n, v) =>
    match parent.column? n with
    | some c => Value.same c.collation (c.affinity.apply v) ((parent.cell? r n).getD .null)
    | none => false

/-- Whether a row does not refer to one that is not there. -/
def keeps (d : Database) (r : Reference) : Bool :=
  match d.table? r.table with
  | none => true
  | some t =>
    match t.rows.find? (·.id = r.row), t.foreigns[r.index]? with
    | some row, some f =>
      match f.values? t row, d.table? f.target with
      | none, _ => true
      | some l, some parent => parent.rows.any (f.leadsTo parent l)
      | some _, none => false
    | _, _ => true

/-- The references to a table, with the tables that they are in. -/
def referrers (d : Database) (name : String) : List (Table × Foreign × Nat) :=
  d.tables.flatMap fun t =>
    t.foreigns.zipIdx.filterMap fun (f, i) =>
      if sameName f.target name then some (t, f, i) else none

/-- Remembers the references of a row that have to be looked at. -/
def Edit.watch (t : Table) (row : Int) (changed : String → Bool) : Edit Unit :=
  modify fun s =>
    t.foreigns.zipIdx.foldl (fun s (f, i) =>
      if f.columns.any changed then
        if f.isDeferred then { s with deferred := ⟨t.name, row, i⟩ :: s.deferred }
        else { s with pending := ⟨t.name, row, i⟩ :: s.pending }
      else s) s

/-- Looks at the references that have to be looked at when a statement is done. -/
def Edit.settle : Edit Unit := do
  let s ← get
  if s.pending.all s.database.keeps then set { s with pending := [] } else Edit.fail

/-! ### Numbers -/

/-- The table in which the last numbers of tables stand. -/
def sequenceName : String := "sqlite_sequence"

/-- The last number of a table that never uses one twice. -/
def lastNumber (d : Database) (name : String) : Int :=
  let row := (d.table? sequenceName).bind fun t =>
    t.rows.find? fun r => r.cells.head? = some (.text (bytesOf name))
  ((row.bind fun r => r.cells[1]?).bind Value.integer?).getD 0

/-- Remembers the last number of a table that never uses one twice. -/
def Edit.setLastNumber (name : String) (n : Int) : Edit Unit :=
  Edit.modifyRows sequenceName fun rows =>
    let key := Value.text (bytesOf name)
    if rows.any fun r => r.cells.head? = some key then
      rows.map fun r => if r.cells.head? = some key then { r with cells := [key, .integer n] } else r
    else rows ++ [⟨rows.foldl (fun m r => max m r.id) 0 + 1, [key, .integer n]⟩]

/-- The number of a new row: the one that is given, or the next one. -/
def Edit.numberFor (t : Table) (given : Option Int) : Edit Int := do
  let last := lastNumber (← get).database t.name
  let greatest := t.rows.foldl (fun (m : Option Int) r => some (max r.id (m.getD r.id))) none
  match given with
  | some n =>
    if t.isCounted && last < n then Edit.setLastNumber t.name n
    return n
  | none =>
    if t.isCounted then
      let n := max last (greatest.getD 0)
      if n = greatestInteger then Edit.fail
      else
        Edit.setLastNumber t.name (n + 1)
        return n + 1
    else
      match greatest with
      | none => return 1
      | some n =>
        if n < greatestInteger then return n + 1
        else
          -- The numbers above are used up; another one is free.
          let free := (List.range (t.rows.length + 1)).find? fun (k : Nat) =>
            !t.rows.any fun r => r.id = (k : Int) + 1
          return ((free.getD 0 : Nat) : Int) + 1

end GameFixes.Database
