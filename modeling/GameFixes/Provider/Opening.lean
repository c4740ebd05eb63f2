import GameFixes.Action
import GameFixes.Database.Saved
import GameFixes.Provider.Holdings
import GameFixes.Provider.Saved

/-!
# Files of games

How the file with what is held is opened, created and written. A plain file with at most one byte is
a new store; another one may be a database of someone else. While a file is open, others stand
beside it under names of their own; where a directory stands in the place of one of them, the file
cannot be opened or not be written.
-/

namespace GameFixes.Provider.Holdings

/-! ### Places -/

/-- The length of the longest path, from the root, at which there can be a store. -/
def pathLimit : Nat := 504

/-- The length of the path from the root to a place. -/
def pathLength (p : Place) : Nat := p.foldl (fun n name => n + name.length + 1) 0

/-- The place beside a store with an ending of its own. -/
def beside (p : Place) (ending : String) : Place :=
  p.dropLast ++ [p.getLastD [] ++ bytesOf ending]

/-- What the names of the files beside a store end with: the one for undoing a write, the one for
what was written last, and the one that leads to what is in that. -/
def journalEnding : String := "-journal"
def logEnding : String := "-wal"
def logIndexEnding : String := "-shm"

/-- Whether a directory stands in the place of a file beside a store. -/
def isBlocked (t : Tree) (p : Place) (ending : String) : Bool := t.at? (beside p ending) = some .dir

/-- The place of the file at a path, which may be still to be created. -/
def placeAt (path : String) : Action Place := do
  match (← get).locate true (bytesOf path) with
  | .error _ => throw (.openDatabase path)
  | .ok landing =>
    let p := match landing with
      | .place p => p
      | .free parent name => parent ++ [name]
    if pathLimit < pathLength p || (← get).tree.at? p = some .dir then throw (.openDatabase path)
    else return p

/-- Puts a node at a place. -/
def putAt (p : Place) (n : Node) : Action Unit :=
  modify fun s => { s with tree := s.tree.put p n }

/-- Removes the file beside a store, unless it is a directory or one of those to be kept. -/
def dropBeside (p : Place) (keeps : Node → Bool) (ending : String) : Action Unit := do
  let t := (← get).tree
  match t.at? (beside p ending) with
  | some n =>
    unless n = .dir || keeps n do modify fun s => { s with tree := t.erase (beside p ending) }
  | none => pure ()

/-! ### Opening and saving -/

/-- Goes over to the log, as every store does when it is opened. -/
def useLog (p : Place) : Action Unit := do
  if isBlocked (← get).tree p logIndexEnding then putAt (beside p logEnding) (.file [])
  else [logEnding, logIndexEnding].forM (dropBeside p fun _ => false)

/-- Keeps what is held in a file. Tables that cannot be read stay as they are. -/
def keep (p : Place) : Holdings → Action Unit
  | .store s => putAt p (.sealed s.toBytes)
  | .tables d =>
    if d.tables.any (·.isBroken) then pure ()
    else putAt p (.sealed (Database.Content.ofDatabase d).toBytes)

/-- Creates a store; `content` is what is in its file, if there is one. -/
def createAt (p : Place) (content : Option (List UInt8)) : Action Holdings := do
  let t := (← get).tree
  if isBlocked t p logEnding || isBlocked t p journalEnding then
    if content.isNone then putAt p (.file [])
    [logEnding, journalEnding].forM (dropBeside p (· = .file []))
    throw .databaseJournal
  else
    dropBeside p (fun _ => false) journalEnding
    useLog p
    if isBlocked t p logIndexEnding then
      putAt p (.sealed [])
      throw .databaseSchema
    else
      keep p (.store {})
      return .store {}

/-- What the content of a sealed file says. -/
def ofBytes? (content : List UInt8) : Option Holdings :=
  match Store.ofBytes? content with
  | some s => some (.store s)
  | none => (Database.Content.ofBytes? content).bind fun c => c.database?.map .tables

/-- Makes way for the log of a file that is a database. -/
def enter (p : Place) : Action Unit := do
  let t := (← get).tree
  if isBlocked t p logEnding || isBlocked t p journalEnding then throw .databaseJournal
  else
    dropBeside p (· = .file []) journalEnding
    useLog p

/-- Opens a file that has been created. -/
def reopenAt (p : Place) (content : List UInt8) : Action Holdings := do
  enter p
  match ofBytes? content with
  | some h => return h
  | none => throw .databaseJournal

/-- Opens a database of someone else, which gets the tables that it lacks. -/
def adoptAt (p : Place) (pages : Database.Pages) (d : Database) : Action Holdings := do
  enter p
  match Schema.complete? d with
  | none => throw .databaseSchema
  | some whole =>
    let isNew := whole.entries.length ≠ d.entries.length
    if isNew && isBlocked (← get).tree p logIndexEnding then throw .databaseSchema
    else
      let h := ofDatabase whole
      if isNew || !pages.usesLog then keep p h
      return h

/-- Refuses a file that is no database. What was to be undone is gone then, and a log that is not
empty. -/
def refuseAt (p : Place) : Action Holdings := do
  let t := (← get).tree
  unless isBlocked t p journalEnding do
    dropBeside p (· = .file []) journalEnding
    unless [none, some .dir, some (.file [])].contains (t.at? (beside p logEnding)) do
      unless isBlocked t p logIndexEnding do
        [logEnding, logIndexEnding].forM (dropBeside p fun _ => false)
  throw .databaseJournal

/-- Opens the file at a path, which is created if nothing stands there. -/
def openAt (path : String) : Action Holdings := do
  match Path.parent? path with
  | some dir => if dir ≠ "" then Action.createDirs dir (.createDatabaseDir dir)
  | none => pure ()
  let p ← placeAt path
  match (← get).tree.at? p with
  | some (.sealed content) =>
    if content.isEmpty then createAt p (some content) else reopenAt p content
  | some (.file content) =>
    if content.length ≤ 1 then createAt p (some content)
    else
      match Database.Pages.ofBytes? content with
      | none => refuseAt p
      | some pages =>
        match Database.ofPages? pages with
        | some d => adoptAt p pages d
        | none => refuseAt p
  | _ => createAt p none

/-- Imports records into the file at a path. -/
def importAt (path : String) (records : RecordSet) : Action ImportReport := do
  let (h, report) ← match (← openAt path).importRecords records with
    | .ok result => pure result
    | .error f => throw f
  let p ← placeAt path
  match records with
  | [] => return report
  | r :: _ =>
    if isBlocked (← get).tree p logIndexEnding then throw (.storeGame r.slug)
    else
      keep p h
      return report

end GameFixes.Provider.Holdings
