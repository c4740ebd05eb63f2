import GameFixes.Database.Reading
import GameFixes.Json.Form
import GameFixes.Json.Reader
import GameFixes.Json.Writer

/-!
# Saved databases

A database as the content of a sealed file: what is defined in it, and the rows of its tables.
-/

namespace GameFixes.Database

open Json (Form)

/-- What is kept of a database. -/
structure Content where
  entries : List Entry
  rows : List (String × List Row)
  deriving DecidableEq, Repr

namespace Content

/-- A value. -/
def value : Form Value :=
  ((Form.integer.either Form.natural).either ((Form.bytes.either Form.bytes).either .flag)).via
    (fun v => match v with
      | .integer n => .inl (.inl n)
      | .real bits => .inl (.inr bits.toNat)
      | .text b => .inr (.inl (.inl b))
      | .blob b => .inr (.inl (.inr b))
      | .null => .inr (.inr true))
    (fun v => match v with
      | .inl (.inl n) => some (.integer n)
      | .inl (.inr bits) => some (.real bits.toUInt64)
      | .inr (.inl (.inl b)) => some (.text b)
      | .inr (.inl (.inr b)) => some (.blob b)
      | .inr (.inr _) => some .null)
    (by intro v; cases v <;> simp)

/-- A row. -/
def row : Form Row :=
  (Form.integer.pair value.items).via (fun r => (r.id, r.cells)) (fun (i, c) => some ⟨i, c⟩)
    (fun _ => rfl)

/-- An entry. -/
def entry : Form Entry :=
  (Form.text.pair (Form.text.pair (Form.text.pair Form.text.optional))).via
    (fun e => (e.kind, e.name, e.table, e.definition)) (fun (k, n, t, d) => some ⟨k, n, t, d⟩)
    (fun _ => rfl)

/-- The whole. -/
def form : Form Content :=
  (entry.items.pair (Form.text.pair row.items).items).via (fun c => (c.entries, c.rows))
    (fun (e, r) => some ⟨e, r⟩) (fun _ => rfl)

/-- What is kept of a database. -/
def ofDatabase (d : Database) : Content := ⟨d.entries, d.tables.map fun t => (t.name, t.rows)⟩

/-- The database of which something was kept. -/
def database? (c : Content) : Option Database := do
  let d ← ofEntries? c.entries
  return { d with tables := d.tables.map fun t => t.withRows ((c.rows.lookup t.name).getD []) }

/-- The content of a file. -/
def toBytes (c : Content) : List UInt8 := bytesOf (Json.render (form.outline c))

/-- What the content of a file says. -/
def ofBytes? (bytes : List UInt8) : Option Content :=
  ((stringOf? bytes).bind Json.read?).bind form.decode

end Content

end GameFixes.Database
