import GameFixes.Catalog.Entry
import GameFixes.Installer.Compile
import GameFixes.Path

/-!
# Failures

The causes that end a request, and their wording. Paths are worded as they were given, except where
the request only states that something is not there.
-/

namespace GameFixes

/-- Why a request failed. -/
inductive Failure
  /-- A directory cannot be listed. -/
  | walk (dir : String)
  /-- A file cannot be read as text. -/
  | read (path : String)
  /-- A file cannot be written. -/
  | write (path : String)
  /-- A directory cannot be created. -/
  | createDir (path : String)
  /-- A fetched catalog cannot be decoded. -/
  | catalog (fault : Catalog.Fault)
  /-- A catalog file cannot be decoded. -/
  | catalogFile (path : String) (fault : Catalog.Fault)
  /-- The catalog server answered with an error; `status` has its number and phrase. -/
  | catalogStatus (status : String)
  /-- The catalog server gave no answer. -/
  | catalogCall
  /-- Every attempt to fetch the catalog asked for another one. -/
  | retriesExhausted
  /-- A record file cannot be decoded. -/
  | records (path : String)
  /-- A settings file cannot be decoded. -/
  | settings (path : String)
  /-- There is no directory to resolve paths from. -/
  | noWorkingDirectory
  /-- The provider database cannot be looked at. -/
  | inspect (path : String)
  /-- The directory of the provider database cannot be created. -/
  | createDatabaseDir (path : String)
  /-- The provider database cannot be opened. -/
  | openDatabase (path : String)
  /-- A file in the place of the provider database is none. -/
  | databaseJournal
  /-- The tables of the provider database cannot be created. -/
  | databaseSchema
  /-- Something that is to be asked or changed in the provider database makes no sense there. -/
  | prepare (what : String)
  /-- A library game cannot be stored. -/
  | storeGame (slug : String)
  /-- A game of a provider cannot be stored. -/
  | storeProviderGame (pair : String)
  /-- Two games cannot be linked. -/
  | linkGames
  /-- What was stored cannot be kept. -/
  | keepImport
  /-- The rows of a table cannot be counted. -/
  | countRows (table : String)
  /-- A game of a provider cannot be looked up. -/
  | findGame (pair : String)
  /-- A row of the provider database is none of a game. -/
  | decodeGame (what : String)
  /-- A lookup of an index failed. -/
  | lookup (name : String)
  /-- The version control tool refused a command. -/
  | git (arguments : String)
  /-- The version control tool cannot be run. -/
  | gitNotRun (arguments : String)
  /-- The checkout is not there. -/
  | checkoutNotFound (dir : String)
  /-- The provider database is not there. -/
  | databaseNotFound (path : String)
  /-- The checkout has no such group. -/
  | groupNotFound (group dir : String)
  /-- The group has no such fix. -/
  | idNotFound (id group : String)
  /-- A script cannot be compiled. -/
  | compile (error : Installer.CompileError)
  deriving DecidableEq, Repr

/-- The wording of a failure. -/
def Failure.message : Failure → String
  | .walk dir => "failed to walk " ++ dir
  | .read path => "failed to read " ++ path
  | .write path => "failed to write " ++ path
  | .createDir path => "failed to create " ++ path
  | .catalog _ => "failed to decode catalog JSON"
  | .catalogFile path _ => "invalid catalog " ++ path
  | .catalogStatus status => "catalog request failed with HTTP " ++ status
  | .catalogCall => "failed to call catalog API"
  | .retriesExhausted => "catalog request exhausted retry budget"
  | .records path => "failed to decode provider records " ++ path
  | .settings path => "failed to parse " ++ path
  | .noWorkingDirectory => "failed to resolve project root: empty working directory"
  | .inspect path => "failed to inspect " ++ path
  | .createDatabaseDir path => "failed to create database parent directory " ++ path
  | .openDatabase path => "failed to open " ++ path
  | .databaseJournal => "failed to enable WAL journal mode"
  | .databaseSchema => "failed to initialize provider schema"
  | .prepare what => "failed to prepare " ++ what
  | .storeGame slug => "failed to store library game " ++ slug
  | .storeProviderGame pair => "failed to store provider game " ++ pair
  | .linkGames => "failed to link provider game"
  | .keepImport => "failed to commit provider import transaction"
  | .countRows table => "failed to count " ++ table
  | .findGame pair => "failed to look up provider game " ++ pair
  | .decodeGame what => "failed to decode " ++ what ++ " game row"
  | .lookup name => name ++ " failed"
  | .git arguments => "git " ++ arguments ++ " failed"
  | .gitNotRun arguments => "failed to execute git " ++ arguments
  | .checkoutNotFound dir =>
    "fix repository not found at " ++ Path.display dir ++ " (run `fixtool sync`)"
  | .databaseNotFound path =>
    "provider database not found at " ++ Path.display path ++ " (run `fixtool db import <path>`)"
  | .groupNotFound group dir => "fix group `" ++ group ++ "` not found in " ++ Path.display dir
  | .idNotFound id group => "fix id `" ++ id ++ "` not found in group `" ++ group ++ "`"
  | .compile error => error.message

/-- Whether a failure comes from a catalog entry without any identifier. -/
def Failure.lacksId : Failure → Bool
  | .catalog fault | .catalogFile _ fault => fault = .missingId
  | _ => false

end GameFixes
