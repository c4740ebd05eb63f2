import GameFixes.Command.Invocation
import GameFixes.Command.Session
import GameFixes.Layout.Setup
import GameFixes.Layout.Status
import GameFixes.Matching
import GameFixes.Checkout.Update
import GameFixes.Provider.Opening
import GameFixes.Reconcile

/-!
# Running the program

What each request does, and what it writes.
-/

namespace GameFixes.Command

open Routine

/-! ### Common parts -/

/-- A path with a label. -/
def pathLine (label path : String) : String := label ++ ": " ++ Path.display path

/-- A flag in words. -/
def flagText (b : Bool) : String := if b then "yes" else "no"

/-- A flag with a label. -/
def flagLine (label : String) (b : Bool) : String := label ++ ": " ++ flagText b

/-- A number with a label. -/
def countLine (label : String) (n : Nat) : String := label ++ ": " ++ toString n

/-- The lines of warnings. -/
def warningLines : List String → List String
  | [] => []
  | warnings => "warnings:" :: warnings.map ("  - " ++ ·)

/-- The settings of a layout. -/
def settingsOf (l : Layout) : Routine Settings := ask (Settings.load · l.config.path)

/-- Fails unless the checkout is there. -/
def needCheckout (l : Layout) : Routine Unit := do
  unless (← get).site.isDir l.fixesDir.path do fail (.checkoutNotFound l.fixesDir.path)

/-- What the provider database holds; it must be there. -/
def existingStore (l : Layout) : Routine Provider.Holdings := do
  if (← get).site.contains l.database then act (Provider.Holdings.openAt l.database)
  else fail (.databaseNotFound l.database)

/-- The fixes of a group, or the one of an identifier; there must be one. -/
def loadGroup (l : Layout) (settings : Settings) (group : String) (id : Option String) :
    Routine (List Checkout.FixScript) := do
  needCheckout l
  unless (← get).site.isDir (Path.join l.fixesDir.path group) do
    fail (.groupNotFound group l.fixesDir.path)
  let scripts ← ask (Checkout.scripts · l.fixesDir.path group settings.idPrefix)
  match id with
  | none => return scripts
  | some id =>
    match scripts.filter (·.id = id) with
    | [] => fail (.idNotFound id group)
    | scripts => return scripts

/-! ### Requests -/

/-- Sets up the layout. -/
def runInit (l : Layout) (force : Bool) : Routine Unit := do
  let report ← act (l.setUp force)
  sayAll ["Initialized fixtool runtime layout",
    pathLine "project_root" l.projectRoot.path, pathLine "state_dir" l.stateDir,
    pathLine "data_dir" l.dataDir.path, pathLine "config_path" l.config.path,
    countLine "created_dirs" report.createdDirs.length,
    "wrote_config: " ++ toString report.wroteConfig]

/-- Shows the layout. -/
def runPaths (l : Layout) : Routine Unit := do
  let status ← ask (Layout.status · l)
  sayAll (["runtime paths",
    pathLine "project_root" l.projectRoot.path,
    pathLine "fixes_dir" l.fixesDir.path, flagLine "fixes_dir_exists" status.fixesDirExists,
    pathLine "extra_ids_path" l.extraIds, flagLine "extra_ids_exists" status.extraIdsExists,
    pathLine "db_path" l.database, flagLine "db_exists" status.databaseExists,
    pathLine "config_path" l.config.path, flagLine "config_exists" status.configExists] ++
    warningLines status.warnings)

/-- Updates the checkout. -/
def runSync (l : Layout) : Routine Unit := do
  let settings ← settingsOf l
  let env := (← get).env
  let url := settings.repositoryUrl env
  let report ← act (Checkout.update env (← get).hasTool url l.fixesDir.path)
  sayAll (["repository sync", "url: " ++ url, pathLine "fixes_dir" l.fixesDir.path,
    "action: " ++ report.action.text] ++ if report.output = "" then [] else [report.output])

/-- Lists the groups of the checkout with the numbers of their fixes. -/
def runGroups (l : Layout) : Routine Unit := do
  let settings ← settingsOf l
  needCheckout l
  let groups ← ask (Checkout.groups · l.fixesDir.path settings.groupPrefix)
  say (countLine "groups.count" groups.length)
  for group in groups do
    let ids ← ask (Checkout.fixIds · (Path.join l.fixesDir.path group) settings.idPrefix)
    say (countLine group ids.length)

/-- A fix as an outline. -/
def scriptOutline (f : Checkout.FixScript) : Outline :=
  .fields [("id", .text f.id), ("group", .text f.group),
    ("operations", .items (f.operations.map fun o => .text o.text))]

/-- The lines that show a fix. -/
def scriptLines (f : Checkout.FixScript) : List String :=
  f.id :: f.operations.map fun o => "  - " ++ o.text

/-- Shows the operations of a group's fixes. -/
def runParse (l : Layout) (group : String) (id : Option String) (asJson : Bool) :
    Routine Unit := do
  let settings ← settingsOf l
  let scripts ← loadGroup l settings group id
  if asJson then say (Json.render (.items (scripts.map scriptOutline)))
  else sayAll (scripts.flatMap scriptLines)

/-- Writes a document, into a directory if there is one. -/
def emit (format : Installer.Format) (outDir : Option String) (r : Installer.Rendering) :
    Routine Unit :=
  match outDir with
  | some dir => act (Action.write (Path.join dir (r.fileName format)) (bytesOf r.text))
  | none => sayAll [r.id, trimmedEnd r.text]

/-- Converts a group's fixes. -/
def runConvert (l : Layout) (group : String) (id : Option String) (format : Installer.Format)
    (outDir : Option String) (keepGoing : Bool) : Routine Unit := do
  let settings ← settingsOf l
  let scripts ← loadGroup l settings group id
  match outDir with
  | some dir => act (Action.createDirs dir (.createDir dir))
  | none => pure ()
  let (renderings, error) := Installer.convert format keepGoing scripts
  renderings.forM (emit format outDir)
  match error with
  | some e => fail (.compile e)
  | none => pure ()

/-- The entries of a catalog file, or else of the catalog server. -/
def catalogEntries (settings : Settings) (catalogFile : Option String) :
    Routine (List Catalog.Entry) := do
  match catalogFile with
  | some path => ask (Catalog.load · path)
  | none =>
    let s ← get
    ofResult (Catalog.fetch (.ofSettings settings s.env) s.network).result

/-- Reconciles the checkout with a catalog, and writes the rows that the catalog lacks. -/
def runCheck (l : Layout) (catalogFile : Option String) : Routine Unit := do
  let settings ← settingsOf l
  needCheckout l
  let store ← existingStore l
  let entries ← catalogEntries settings catalogFile
  let extra := if (← get).site.contains l.extraIds then some l.extraIds else none
  let ids ← ask (Checkout.allIds · l.fixesDir.path settings.groupPrefix settings.idPrefix extra)
  let report ← ofResult (reconcile store.index settings.options (Catalog.group entries) ids)
  sayAll (report.unmatchedFixRows.map (·.csvLine))

/-- Lists the library games that have fixes. -/
def runMatched (l : Layout) : Routine Unit := do
  let settings ← settingsOf l
  needCheckout l
  let store ← existingStore l
  let dir := Path.join l.fixesDir.path settings.libraryGroup
  let ids ← ask (Checkout.fixIds · dir settings.idPrefix)
  let report ← ofResult (matchLibraryGames store.index settings.libraryProvider ids)
  sayAll (report.matched.map (fun m => m.name ++ " " ++ m.providerList) ++
    "Unmatched IDs" :: TextSet.toList report.unmatched)

/-- Imports provider records. -/
def runImport (l : Layout) (path : String) : Routine Unit := do
  let records ← ask (Provider.RecordSet.load · path)
  let report ← act (Provider.Holdings.importAt l.database records)
  sayAll ["db import", pathLine "db_path" l.database,
    countLine "library_games" report.libraryGames,
    countLine "provider_games" report.providerGames,
    countLine "new_associations" report.newAssociations]

/-- Shows the size of the provider database. -/
def runStats (l : Layout) : Routine Unit := do
  let status ← ask (Layout.status · l)
  sayAll ["db stats", pathLine "db_path" l.database, flagLine "db_exists" status.databaseExists,
    "db_size_bytes: " ++ (status.databaseSize.map toString).getD "n/a"]
  if status.databaseExists then
    let stats ← ofResult (← act (Provider.Holdings.openAt l.database)).stats
    sayAll [countLine "library_games" stats.libraryGames,
      countLine "provider_games" stats.providerGames, countLine "associations" stats.associations]
  else say "db.storage: <not built> (run `fixtool db import <path>`)"

/-- Does what is asked for. -/
def runRequest (l : Layout) : Request → Routine Unit
  | .init force => runInit l force
  | .paths => runPaths l
  | .sync => runSync l
  | .groups => runGroups l
  | .parse group id asJson => runParse l group id asJson
  | .convert group id format outDir keepGoing => runConvert l group id format outDir keepGoing
  | .check catalogFile => runCheck l catalogFile
  | .matched => runMatched l
  | .importRecords path => runImport l path
  | .stats => runStats l

/-- Whether the diagnostics may follow what a request writes. -/
def Request.allowsDiagnostics : Request → Bool
  | .parse _ _ asJson => !asJson
  | _ => true

/-- Does what a command line asks for. -/
def Invocation.run (i : Invocation) : Routine Unit := do
  let layout ← resolveLayout i.overrides
  runRequest layout i.request
  if i.diagnostics && i.request.allowsDiagnostics then
    sayAll ["", "[diagnostics]", layout.diagnostics]

/-! ### Ending -/

/-- What a program leaves behind. -/
structure Ended where
  exitCode : UInt8
  output : String := ""
  failure : Option Failure := none
  site : Site

/-- The text of lines. -/
def textOfLines (lines : List String) : String := String.join (lines.map (· ++ "\n"))

/-- The name of the program and its version. -/
def versionText : String := "fixtool 0.1.0"

/-- The exit code that the end of a routine means. -/
def exitCodeOf {α : Type} : Except Halt α → UInt8
  | .ok _ => 0
  | .error (.failed _) => 1
  | .error .aborted => 101

/-- Runs the program with the words of a command line. -/
def runWords (words : List String) (s : Session) : Ended :=
  match Invocation.ofWords words with
  | .error .help => { exitCode := 0, site := s.site }
  | .error .version => { exitCode := 0, output := textOfLines [versionText], site := s.site }
  | .error .misuse => { exitCode := 2, site := s.site }
  | .ok i =>
    let (result, ended) := (ExceptT.run i.run).run s
    { exitCode := exitCodeOf result
      output := textOfLines ended.lines
      failure := match result with
        | .error (.failed f) => some f
        | .error .aborted | .ok _ => none
      site := ended.site }

end GameFixes.Command
