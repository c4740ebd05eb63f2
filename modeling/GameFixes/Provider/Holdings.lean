import GameFixes.Database.Change
import GameFixes.Database.Preparation
import GameFixes.Provider.Schema

/-!
# Holdings

What a file of games holds: a store, or tables that someone else has laid out. Such tables are asked
and changed by statements; a statement that makes no sense there fails, and an import that fails
changes nothing.
-/

namespace GameFixes.Provider

open Database (Expr Select Join Change Value Row)

/-- What a file of games holds. -/
inductive Holdings
  | store (s : Store)
  | tables (d : Database)

namespace Holdings

/-- What is in a database that has all tables by now. -/
def ofDatabase (d : Database) : Holdings :=
  match Schema.store? d with
  | some s => .store s
  | none => .tables d

/-! ### Statements -/

/-- A column of a table. -/
def columnOf (source name : String) : Expr := .column (some source) name false

/-- A text as a part of a statement. -/
def textExpr (s : String) : Expr := .value (.ofText s)

/-- A number as a part of a statement. -/
def numberExpr (n : Int) : Expr := .value (.integer n)

/-- A query of columns of some tables. -/
def query (results : List Expr) (joins : List Join) (filter : Option Expr) (order : List Expr) :
    Select :=
  .mk (.query false (results.map fun e => .one e none) joins filter [] none) []
    (order.map fun e => .mk e false none) none none

/-- A table as a part of a query. -/
def fromTable (name nickname : String) (condition : Option Expr) : Join :=
  .mk .inner false (.table name) (some nickname) condition []

/-- The rows of a query, unless it makes no sense or cannot be answered. -/
def ask (d : Database) (q : Select) (unclear broken : Failure) :
    Except Failure (List (List Value)) :=
  if (Database.columnsOf? d Database.depthLimit [] q).isNone then .error unclear
  else
    match Database.rowsOf d Database.depthLimit [] q with
    | .ok rows => .ok rows
    | .error _ => .error broken

/-- How many rows a table has. -/
def count (d : Database) (name : String) : Except Failure Nat := do
  let rows ← ask d (query [.call "count" false none] [fromTable name name none] none [])
    (.countRows name) (.countRows name)
  match rows with
  | [[.integer n]] => return n.toNat
  | _ => .error (.countRows name)

/-- The game that a provider has under a name. -/
def findProviderGame (d : Database) (provider slug : String) :
    Except Failure (Option ProviderGame) := do
  let failure := Failure.findGame (provider ++ ":" ++ slug)
  let cell := fun name => Expr.column none name false
  let filter := Expr.binary .and (.binary .equal (cell "provider") (textExpr provider))
    (.binary .equal (cell "slug") (textExpr slug))
  let rows ← ask d (query (["id", "provider", "slug", "name"].map cell)
    [.mk .inner false (.table Schema.providerName) none none []] (some filter) []) failure failure
  match rows with
  | [] => return none
  | r :: _ =>
    match Schema.providerGame? r with
    | some g => return some g
    | none => .error failure

/-- Games to which links lead, by ascending number. -/
def linkedTo {α : Type} (d : Database) (name own other : String) (columns : List String) (id : Int)
    (what : String) (decode : List Value → Option α) : Except Failure (List α) := do
  let joins := [fromTable name "g" none,
    fromTable Schema.linkName "l" (some (.binary .equal (columnOf "l" own) (columnOf "g" "id")))]
  let filter := Expr.binary .equal (columnOf "l" other) (numberExpr id)
  let rows ← ask d (query (columns.map (columnOf "g")) joins (some filter) [columnOf "g" "id"])
    (.prepare (what ++ " games query")) (.decodeGame what)
  rows.mapM fun r => (decode r).elim (.error (.decodeGame what)) .ok

/-- The tables as an index, whose lookups may fail. -/
def tablesIndex (d : Database) : Index where
  findProviderGame := findProviderGame d
  libraryGamesFor g := linkedTo d Schema.libraryName "library_game_id" "provider_game_id"
    ["id", "name", "slug"] g.id "library" Schema.libraryGame?
  providerGamesFor g := linkedTo d Schema.providerName "provider_game_id" "library_game_id"
    ["id", "provider", "slug", "name"] g.id "provider" Schema.providerGame?

/-! ### Imports -/

/-- A change that adds a row, or gives another name to the row that is there. -/
def put (table : String) (columns keys : List String) (values : List String) : Change :=
  let name := fun (n : String) => Expr.column none n false
  .insert none table (some columns)
    (some (.mk (.rows [values.map textExpr]) [] [] none none))
    [{ target := some (keys.map name), sets := some [("name", columnOf "excluded" "name")] }]

/-- A change that adds a library game. -/
def putLibraryGame (name slug : String) : Change :=
  put Schema.libraryName ["name", "slug"] ["slug"] [name, slug]

/-- A change that adds a game of a provider. -/
def putProviderGame (provider slug name : String) : Change :=
  put Schema.providerName ["provider", "slug", "name"] ["provider", "slug"] [provider, slug, name]

/-- A change that adds a link, unless it is there. -/
def link (libraryId providerId : Int) : Change :=
  .insert (some .ignore) Schema.linkName (some ["library_game_id", "provider_game_id"])
    (some (.mk (.rows [[numberExpr libraryId, numberExpr providerId]]) [] [] none none)) []

/-- A database while records are imported. -/
structure Import where
  database : Database
  deferred : List Database.Reference := []
  report : ImportReport := {}

/-- The number of the row that a change has added or found. -/
def numberIn (d : Database) (name : String) (rows : List Row) : Option Int := do
  let t ← d.table? name
  match t.cell? (← rows.head?) "id" with
  | some (.integer n) => some n
  | _ => none

/-- Makes a change that leads to a row with a number. -/
def Import.putRow (i : Import) (table : String) (c : Change) (failure : Failure) :
    Except Failure (Import × Int) :=
  match Database.execute? i.database i.deferred c with
  | some done =>
    match numberIn done.database table done.rows with
    | some n => .ok ({ i with database := done.database, deferred := done.deferred }, n)
    | none => .error failure
  | none => .error failure

/-- Stores a record of a provider for the library game with a name and a number. -/
def Import.provider (gameName : String) (gameId : Int) (i : Import) (r : ProviderRecord) :
    Except Failure Import := do
  let (i, id) ← i.putRow Schema.providerName
    (putProviderGame r.provider r.slug (r.name.getD gameName))
    (.storeProviderGame (r.provider ++ ":" ++ r.slug))
  match Database.execute? i.database i.deferred (link gameId id) with
  | some done => return ⟨done.database, done.deferred, { i.report with
      providerGames := i.report.providerGames + 1
      newAssociations := i.report.newAssociations + done.changes }⟩
  | none => .error .linkGames

/-- Stores a library record with its provider records. -/
def Import.game (i : Import) (r : LibraryRecord) : Except Failure Import := do
  let (i, id) ← i.putRow Schema.libraryName (putLibraryGame r.name r.slug) (.storeGame r.slug)
  let i := { i with report := { i.report with libraryGames := i.report.libraryGames + 1 } }
  r.providers.foldlM (Import.provider r.name id) i

/-- Fails unless a change makes sense, and its rows have numbers if that matters. -/
def needPrepared (d : Database) (c : Change) (needsNumber : Option String) (what : String) :
    Except Failure Unit :=
  let hasNumber := needsNumber.all fun name =>
    (d.table? name).any fun t => (t.position? "id").isSome
  if hasNumber && Database.isPrepared d Database.depthLimit [] [] c then .ok ()
  else .error (.prepare what)

/-- Stores the records of a set in tables, one after another, or nothing. -/
def importIntoTables (d : Database) (records : RecordSet) :
    Except Failure (Database × ImportReport) := do
  needPrepared d (putLibraryGame "" "") (some Schema.libraryName) "library_games upsert"
  needPrepared d (putProviderGame "" "" "") (some Schema.providerName) "provider_games upsert"
  needPrepared d (link 0 0) none "association insert"
  let i ← records.foldlM Import.game { database := d }
  if i.deferred.all i.database.keeps then return (i.database, i.report) else .error .keepImport

/-! ### Both -/

/-- The numbers of games and links. -/
def stats : Holdings → Except Failure Stats
  | .store s => .ok s.stats
  | .tables d => do
    return ⟨← count d Schema.libraryName, ← count d Schema.providerName, ← count d Schema.linkName⟩

/-- The index over what is held. -/
def index : Holdings → Index
  | .store s => s.index
  | .tables d => tablesIndex d

/-- Stores the records of a set. -/
def importRecords (h : Holdings) (records : RecordSet) : Except Failure (Holdings × ImportReport) :=
  match h with
  | .store s =>
    let (s, report) := s.importRecords records
    .ok (.store s, report)
  | .tables d => (importIntoTables d records).map fun (d, report) => (.tables d, report)

end Holdings

end GameFixes.Provider
