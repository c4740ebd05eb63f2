import GameFixes.Command.Run
import GameFixes.Depot.Saved
import GameFixes.Tree.Node

/-!
# The program

The outer layer of the program: it loads the part of the file system that a request looks at, runs
the request on it, and then stores what has changed. The objects of a depot lie in a file of its own
among them, and what is staged lies in the file that stands for it.
-/

namespace GameFixes.Program

open Command

/-- How the program is used. -/
def usage : String :=
  "Usage: fixtool [OPTIONS] [COMMAND]\n\nCommands:\n" ++
    String.join (programCommands.map fun c => "  " ++ c.1 ++ "\n") ++
    "\nOptions:\n" ++ String.join (commonOptions.map fun o => "  --" ++ o.name ++ "\n")

/-- The variables that are taken over from the process. -/
def variableNames : List String :=
  ["FIXTOOL_PROJECT_ROOT", "FIXTOOL_DATA_DIR", "FIXTOOL_FIXES_DIR", "FIXTOOL_CONFIG",
    "FIXTOOL_REPOSITORY_URL", "FIXTOOL_API_URL", "FIXTOOL_USER_AGENT", "HOME", "USER",
    searchVariable]

/-- The variables of the process that say something to the version control tool. -/
def toolVariableNames : List String :=
  ["EDITOR", "EMAIL", "VISUAL", "XDG_CONFIG_HOME"] ++
    ["ALLOW_PROTOCOL", "AUTHOR_DATE", "AUTHOR_EMAIL", "AUTHOR_NAME", "CEILING_DIRECTORIES",
      "COMMITTER_DATE", "COMMITTER_EMAIL", "COMMITTER_NAME", "COMMON_DIR", "CONFIG",
      "CONFIG_COUNT", "CONFIG_GLOBAL", "CONFIG_NOSYSTEM", "CONFIG_PARAMETERS", "CONFIG_SYSTEM",
      "DEFAULT_HASH", "DIR", "EDITOR", "GLOB_PATHSPECS", "ICASE_PATHSPECS", "INDEX_FILE",
      "LITERAL_PATHSPECS", "NAMESPACE", "NOGLOB_PATHSPECS", "OBJECT_DIRECTORY",
      "PROTOCOL_FROM_USER", "QUARANTINE_PATH", "REFLOG_ACTION", "TEMPLATE_DIR",
      "WORK_TREE"].map ("GIT_" ++ ·) ++
    (List.range 16).flatMap fun i =>
      ["GIT_CONFIG_KEY_" ++ toString i, "GIT_CONFIG_VALUE_" ++ toString i]

/-- The variables of the process. -/
def environment : IO Environment := do
  let bindings ← (variableNames ++ toolVariableNames).filterMapM fun name => do
    return (← IO.getEnv name).map (name, ·)
  return TextMap.ofList bindings

/-! ### Loading -/

/-- The path of a place for the file system. -/
def pathOf (p : Place) : String := cwdText p

/-- What stands at a place of the file system. A link leads to where it ends. Unless `reads`, files
are taken for empty. -/
def probe (reads : Bool) (p : Place) : IO (Option Node) := do
  let path := System.mkFilePath [pathOf p]
  try
    match (← path.symlinkMetadata).type with
    | .dir => return some .dir
    | .file =>
      if reads then return some (.ofStoredBytes (← IO.FS.readBinFile path).toList)
      else return some (.file [])
    | .symlink => return some (.link (bytesOf (← IO.FS.realPath path).toString))
    | .other => return none
  catch _ => return none

/-- Loads what stands under a place. -/
partial def loadUnder (t : Tree) (p : Place) : IO Tree := do
  try
    (← (System.mkFilePath [pathOf p]).readDir).foldlM (fun t e => do
      let q := p ++ [bytesOf e.fileName]
      match ← probe true q with
      | some .dir => loadUnder (t.put q .dir) q
      | some n => return t.put q n
      | none => return t) t
  catch _ => return t

/-- Loads what steps lead to from a place, and all on the way. Unless `reads`, nothing else is
loaded. -/
partial def loadSteps (reads : Bool) (t : Tree) (p : Place) : List Step → IO Tree
  | [] => if reads then loadUnder t p else return t
  | .here :: steps => loadSteps reads t p steps
  | .up :: steps => loadSteps reads t p.dropLast steps
  | .into name :: steps => do
    let q := p ++ [name]
    match ← probe reads q with
    | some (.link target) => loadSteps reads (t.plant q (.link target)) [] (stepsOf target ++ steps)
    | some .dir => loadSteps reads (t.plant q .dir) q steps
    | some n => return t.plant q n
    | none => return t

/-- Loads what a path leads to. -/
def loadPath (reads : Bool) (s : Site) (path : String) : IO Site := do
  let bytes := bytesOf path
  let tree ← loadSteps reads s.tree (if isRooted bytes then [] else s.cwd) (stepsOf bytes)
  return { s with tree := tree }

/-- The name of the file with the objects of a depot. -/
def objectsName : FileName := bytesOf "state"

/-- The site with an archive or a stage that lies in a sealed file. -/
def gather (s : Site) (p : Place) (content : List UInt8) : Site :=
  if p.getLast? = some objectsName then
    match Depot.Saved.ofBytes? Depot.Saved.archive content with
    | some a => { s.putArchive p.dropLast a with tree := s.tree.erase p }
    | none => s
  else
    match Depot.Saved.ofBytes? Depot.Saved.stage content with
    | some stage =>
      let around := p.dropLast.dropLast
      let programs := stage.entries.filterMap fun (q, e) =>
        if e.item.kind = .program then some (around ++ q) else none
      { s.putStage p stage with
        tree := s.tree.put p (.sealed []), programs := s.programs ++ programs }
    | none => s

/-- The site in which the archives and stages that lie in files are those of its depots. -/
def gatherDepots (s : Site) : Site :=
  s.tree.nodes.foldl (fun s (p, n) =>
    match n with
    | .sealed content => gather s p content
    | _ => s) s

/-- The paths that a request itself names. -/
def namedPaths : Request → List String
  | .convert _ _ _ (some dir) _ => [dir]
  | .check (some path) => [path]
  | .importRecords path => [path]
  | _ => []

/-- The paths that an invocation looks at, as far as the session shows them, and the directories in
which programs are looked for. -/
def reach (i : Invocation) (s : Session) : List String × List String :=
  let around := (Path.ancestors (cwdText s.site.cwd)).flatMap fun dir =>
    [Path.join dir envFileName, Path.join dir Layout.stateDirName]
  let (layout, s) := (ExceptT.run (resolveLayout i.overrides)).run s
  let search := Text.splitOn ':' ((s.env.get? searchVariable).getD defaultSearch).toList
  let personal := "/etc/gitconfig" ::
    (s.env.get? "HOME").toList.map (Path.join · ".gitconfig") ++
    ["GIT_CONFIG_GLOBAL", "GIT_CONFIG_SYSTEM", "GIT_DIR", "GIT_WORK_TREE"].filterMap s.env.get?
  let paths := match layout with
    | .ok l =>
      let depots := (Path.ancestors l.fixesDir.path).map (Path.join · ".git")
      depots ++ namedPaths i.request ++
        [Path.join l.projectRoot.path envFileName, l.stateDir, l.dataDir.path, l.fixesDir.path,
          l.config.path, ((Settings.load s.site l.config.path).toOption.getD {}).repositoryUrl s.env]
    | .error _ => []
  (around ++ personal ++ paths, search.map String.ofList)

/-- Loads the paths that an invocation looks at, and the version control tool. -/
def loadReach (i : Invocation) (s : Session) : IO Session := do
  let (paths, search) := reach i s
  let tools := search.map fun dir => Path.join dir toolName
  let site ← paths.foldlM (loadPath true) s.site
  let site ← tools.foldlM (loadPath false) site
  let found := tools.filterMap fun path => (site.placeOf path).toOption
  return { s with
    site := gatherDepots site
    tools := found.filter fun p => (site.tree.at? p).any Node.isFile }

/-! ### Storing -/

/-- The tree of a site with the archives and stages of its depots in files. -/
def treeWithDepots (s : Site) : Tree :=
  let t := s.archives.foldl (fun t (p, a) =>
    if t.at? p = some .dir then
      t.put (p ++ [objectsName]) (.sealed (Depot.Saved.toBytes Depot.Saved.archive a))
    else t) s.tree
  s.stages.foldl (fun t (p, stage) =>
    if t.at? p = some (.sealed []) then
      t.put p (.sealed (Depot.Saved.toBytes Depot.Saved.stage stage))
    else t) t

/-- Removes the nodes of a tree in whose place another one has none, or of another kind, and then
stores the nodes that the other one has in their place or besides. -/
def store (old new : Tree) : IO Unit := do
  for (p, n) in old.nodes.reverse do
    unless (new.at? p).any fun m => decide (n = .dir) == decide (m = .dir) do
      if n = .dir then IO.FS.removeDir (pathOf p) else IO.FS.removeFile (pathOf p)
  for (p, n) in new.nodes do
    unless old.at? p = some n do
      match n.storedBytes? with
      | some bytes => IO.FS.writeBinFile (pathOf p) ⟨bytes.toArray⟩
      | none => if n = .dir then IO.FS.createDirAll (pathOf p)

/-- Lets the files of a site be run that may be run in it and could not in another one. -/
def storePrograms (old new : Site) : IO Unit := do
  for p in new.programs do
    if (new.tree.at? p).any Node.isFile && !old.programs.contains p then
      let all : IO.AccessRight := ⟨true, true, true⟩
      IO.setAccessRights (pathOf p) ⟨all, ⟨true, false, true⟩, ⟨true, false, true⟩⟩

/-- Runs an invocation in a session. What is looked at may depend on what was loaded before, so
it is loaded in three rounds. -/
def run (words : List String) (i : Invocation) (s : Session) : IO UInt8 := do
  let s ← loadReach i (← loadReach i (← loadReach i s))
  let ended := runWords words s
  store (treeWithDepots s.site) (treeWithDepots ended.site)
  storePrograms s.site ended.site
  IO.print ended.output
  match ended.failure with
  | some f => IO.eprintln ("Error: " ++ f.message)
  | none => pure ()
  return ended.exitCode

end GameFixes.Program

open GameFixes in
/-- Runs the program with the words of its command line. -/
def main (words : List String) : IO UInt32 := do
  match Command.Invocation.ofWords words with
  | .error .help =>
    IO.print Program.usage
    return 0
  | .error .version =>
    IO.println Command.versionText
    return 0
  | .error .misuse =>
    IO.eprint Program.usage
    return 2
  | .ok i =>
    let cwd := stepsOf (bytesOf (← IO.currentDir).toString) |>.filterMap fun s =>
      match s with
      | .into name => some name
      | _ => none
    let session : Command.Session := { site := { cwd := cwd }, env := ← Program.environment }
    let code ← Program.run words i session
    return code.toUInt32
