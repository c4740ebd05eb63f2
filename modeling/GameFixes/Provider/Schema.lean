import GameFixes.Database.Reading
import GameFixes.Provider.Store

/-!
# The schema of provider databases

The tables and indexes that a provider database has, and how those are added that are not there yet.
-/

namespace GameFixes.Provider.Schema

open Database (Entry Token sameName)

/-- The tables for games and links. -/
def libraryName : String := "library_games"
def providerName : String := "provider_games"
def linkName : String := "library_game_providers"

/-- The text that defines a table with some parts. -/
def tableText (name : String) (parts : List String) : String :=
  "CREATE TABLE " ++ name ++ " (" ++ ", ".intercalate parts ++ ")"

/-- An entry for a table. -/
def tableEntry (name : String) (parts : List String) : Entry :=
  ⟨"table", name, name, some (tableText name parts)⟩

/-- An entry for an index on a column. -/
def indexEntry (name table column : String) : Entry :=
  ⟨"index", name, table, some ("CREATE INDEX " ++ name ++ " ON " ++ table ++ "(" ++ column ++ ")")⟩

/-- A reference to the number of a row of a table. -/
def reference (column target : String) : String :=
  "FOREIGN KEY (" ++ column ++ ") REFERENCES " ++ target ++ "(id) ON DELETE CASCADE"

/-- The table for library games. -/
def libraryTable : Entry :=
  tableEntry libraryName
    ["id INTEGER PRIMARY KEY AUTOINCREMENT", "name TEXT NOT NULL", "slug TEXT NOT NULL UNIQUE"]

/-- The table for games of providers. -/
def providerTable : Entry :=
  tableEntry providerName
    ["id INTEGER PRIMARY KEY AUTOINCREMENT", "provider TEXT NOT NULL", "slug TEXT NOT NULL",
      "name TEXT NOT NULL", "UNIQUE (provider, slug)"]

/-- The table for links. -/
def linkTable : Entry :=
  tableEntry linkName
    ["library_game_id INTEGER NOT NULL", "provider_game_id INTEGER NOT NULL",
      "PRIMARY KEY (library_game_id, provider_game_id)",
      reference "library_game_id" libraryName, reference "provider_game_id" providerName]

/-- The indexes for looking up games and links. -/
def slugIndex : Entry := indexEntry "idx_provider_games_slug" providerName "slug"
def linkIndex : Entry :=
  indexEntry "idx_library_game_providers_provider" linkName "provider_game_id"

/-- The table with the last numbers of tables. -/
def sequenceTable : Entry :=
  ⟨"table", Database.sequenceName, Database.sequenceName,
    some ("CREATE TABLE " ++ Database.sequenceName ++ "(name,seq)")⟩

/-- What a provider database has. -/
def all : List Entry := [libraryTable, providerTable, slugIndex, linkTable, linkIndex]

/-! ### Adding -/

/-- The database with a table, unless there is one. -/
def addTable? (d : Database) (e : Entry) : Option Database :=
  if d.knows e.name then some d
  else if d.hasIndex e.name then none
  else do
    let d ← Database.define? d e
    let isCounted := (d.table? e.name).any (·.isCounted)
    if isCounted && !d.knows Database.sequenceName then Database.define? d sequenceTable
    else return d

/-- The database with an index, unless there is one; its table must be there. -/
def addIndex? (d : Database) (e : Entry) : Option Database := do
  let t ← d.table? e.table
  if d.knows e.name then none
  else if d.hasIndex e.name then return d
  else if t.isBroken then none
  else Database.define? d e

/-- The database with all that a provider database has. -/
def complete? (d : Database) : Option Database :=
  all.foldlM (fun d e => if e.kind = "table" then addTable? d e else addIndex? d e) d

/-! ### Plain stores -/

/-- The tokens of a definition, in which the case of words does not matter. -/
def tokensOf (e : Entry) : Option (List Token) :=
  (e.definition.bind Token.all?).map (·.map Token.folded)

/-- Whether an entry says the same as another one. -/
def isSame (e f : Entry) : Bool :=
  e.kind = f.kind && e.name = f.name && e.table = f.table && tokensOf e = tokensOf f

/-- Whether a database has just what a provider database has. -/
def isPlain (d : Database) : Bool :=
  let known := sequenceTable :: all
  let own := d.entries.filter (·.definition.isSome)
  own.length = known.length && known.all fun e => own.any (isSame · e)

/-- How far numbers can go in a plain store. -/
def numberLimit : Int := 4611686018427387904

/-- The text of a cell, if it is one. -/
def text? : Database.Value → Option String
  | .text bytes => stringOf? bytes
  | _ => none

/-- The number of a cell, if it is one. -/
def number? : Database.Value → Option Int
  | .integer n => some n
  | _ => none

/-- The library game in the cells of a row. -/
def libraryGame? : List Database.Value → Option LibraryGame
  | [id, name, slug] => do return ⟨← number? id, ← text? name, ← text? slug⟩
  | _ => none

/-- The game of a provider in the cells of a row. -/
def providerGame? : List Database.Value → Option ProviderGame
  | [id, provider, slug, name] => do
    return ⟨← number? id, ← text? provider, ← text? slug, ← text? name⟩
  | _ => none

/-- The link in the cells of a row. -/
def link? : List Database.Value → Option (Int × Int)
  | [a, b] => do return (← number? a, ← number? b)
  | _ => none

/-- What is in the rows of a table. -/
def rowsOf? {α : Type} (d : Database) (name : String) (f : List Database.Value → Option α) :
    Option (List α) := do
  let t ← d.table? name
  if t.isBroken then none else t.rows.mapM fun r => f r.cells

/-- The last number of a table, if it is in the usual range. -/
def counter? (d : Database) (name : String) (ids : List Int) : Option Nat :=
  let n := ids.foldl max (Database.lastNumber d name)
  if 0 ≤ n && n < numberLimit then some n.toNat else none

/-- The store that a database is, if it is one like those that are made here. -/
def store? (d : Database) : Option Store := do
  if !isPlain d then none
  let libraryGames ← rowsOf? d libraryName libraryGame?
  let providerGames ← rowsOf? d providerName providerGame?
  return {
    libraryGames := libraryGames
    providerGames := providerGames
    links := ← rowsOf? d linkName link?
    libraryCounter := ← counter? d libraryName (libraryGames.map (·.id))
    providerCounter := ← counter? d providerName (providerGames.map (·.id)) }

end GameFixes.Provider.Schema
