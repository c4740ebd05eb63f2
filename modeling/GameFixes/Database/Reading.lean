import GameFixes.Database.Definition
import GameFixes.Database.Page
import GameFixes.Database.Editing

/-!
# Reading databases

What a file of pages says: its first table lists all that is defined, and each table has a tree of
pages for its rows.
-/

namespace GameFixes.Database

/-! ### Entries -/

/-- Whether a name is the one that an entry says. -/
def Entry.names (e : Entry) (kind name table : String) : Bool :=
  e.kind = kind && sameName e.name name && sameName e.table table

/-- The database with something that is defined by an entry. -/
def define? (d : Database) (e : Entry) : Option Database :=
  let d' : Database := { d with entries := d.entries ++ [e] }
  match e.definition with
  | none => if e.kind = "index" && (d.table? e.table).isSome then some d' else none
  | some text =>
    match Definition.ofText? text with
    | some (.table t) =>
      if e.names "table" t.name t.name && !d.knows t.name then some (d'.putTable t) else none
    | some (.index owner k) =>
      match d.table? owner with
      | some t =>
        if e.names "index" k.name t.name && !d.hasIndex k.name && Definition.hasParts t k.parts then
          some (d'.putTable { t with keys := t.keys ++ [k] })
        else none
      | none => none
    | some (.view v) =>
      if e.names "view" v.name v.name && !d.knows v.name then
        some { d' with views := d.views ++ [v] }
      else none
    | some (.trigger g) =>
      if e.names "trigger" g.name g.table && d.knows g.table then
        some { d' with triggers := d.triggers ++ [g] }
      else none
    | some (.stranger n) =>
      if e.names "table" n n && !d.knows n then some { d' with strangers := d.strangers ++ [n] }
      else none
    | none => none

/-- The database with some entries and no rows. -/
def ofEntries? (entries : List Entry) : Option Database := entries.foldlM define? {}

/-! ### Rows -/

/-- The columns of a table in the order in which a record has them. -/
def Table.recordOrder (t : Table) : List Nat :=
  let kept := (t.columns.zipIdx.filter fun (c, _) => !c.computed.any (!·.2)).map (·.2)
  if t.hasNumbers then kept
  else
    let first := (t.primaryColumns.filterMap t.position?).eraseDups
    first ++ kept.filter fun i => !first.contains i

/-- The value of a column where a record ends before it. -/
def defaultOf (d : Database) (c : Column) : Value :=
  match c.default with
  | some e => c.affinity.apply ((eval d depthLimit [] e).toOption.getD .null)
  | none => .null

/-- The row that a record says. -/
def rowOf (d : Database) (t : Table) (id : Int) (record : List Value) : Row :=
  let order := t.recordOrder
  let cells := t.columns.zipIdx.map fun (c, i) =>
    let v := match order.idxOf? i with
      | some k => record[k]?.getD (defaultOf d c)
      | none => .null
    if t.numberColumn = some i then .integer id
    else if c.affinity = .real then v.asReal
    else v
  let scope : List Value → Scope := fun cells => [⟨[Source.ofRow t none ⟨id, cells⟩], [], none⟩]
  ⟨id, t.columns.zipIdx.foldl (fun cells (c, i) =>
    match c.computed with
    | some (e, false) =>
      cells.set i (c.affinity.apply ((eval d depthLimit (scope cells) e).toOption.getD .null))
    | _ => cells) cells⟩

/-- The table with the rows in a tree of pages. -/
def withPages (d : Database) (p : Pages) (t : Table) (page : Nat) : Table :=
  let rows :=
    if t.hasNumbers then
      (p.numberedRows? Pages.depthLimit page).map fun l => l.map fun (id, r) => rowOf d t id r
    else
      (p.plainRows? Pages.depthLimit page).map fun l =>
        l.zipIdx.map fun (r, i) => rowOf d t (i + 1) r
  match rows with
  | some rows => t.withRows rows
  | none => { t with isBroken := true }

/-- The text of a cell. -/
def cellText? : Value → Option String
  | .text bytes => some (stringOfLossy bytes)
  | _ => none

/-- The entry that a row of the first table says, and the page where its own rows start. -/
def entryOf? (p : Pages) (cells : List Value) : Option (Entry × Nat) :=
  match cells with
  | kind :: name :: table :: page :: rest => do
    let page := (← page.integer?).toNat
    let text := rest.head?.bind cellText?
    let isCreated := text.any fun s => lower (String.ofList (s.toList.take 2)) = "cr"
    if p.count < page then none
    else if isCreated || ((text.getD "") = "" && (cellText? name).isSome) then
      return (⟨(cellText? kind).getD "", (cellText? name).getD "", (cellText? table).getD "",
        if isCreated then text else none⟩, page)
    else none
  | _ => none

/-- The database in the pages of a file. -/
def ofPages? (p : Pages) : Option Database := do
  let listed ← p.numberedRows? Pages.depthLimit 1
  let entries ← listed.mapM fun r => entryOf? p r.2
  let d ← ofEntries? (entries.map (·.1))
  return { d with tables := d.tables.map fun t =>
    match entries.find? fun (e, _) => e.kind = "table" && sameName e.name t.name with
    | some (_, page) => withPages d p t page
    | none => t }

end GameFixes.Database
