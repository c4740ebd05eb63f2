import GameFixes.Settings

/-!
# Layouts

Where everything of a project lies. Each of four paths is given by a flag, by a variable or by a
rule, in this order of precedence; three others follow from them.
-/

namespace GameFixes

/-- What a path was taken from. -/
inductive Origin
  | flag
  | env
  /-- A directory above the working directory. -/
  | heuristic
  | default
  deriving DecidableEq, Repr

/-- How an origin is written. -/
def Origin.text : Origin → String
  | .flag => "flag"
  | .env => "env"
  | .heuristic => "heuristic"
  | .default => "default"

/-- The paths that flags give. -/
structure Overrides where
  projectRoot : Option String := none
  dataDir : Option String := none
  fixesDir : Option String := none
  config : Option String := none
  deriving DecidableEq, Repr

/-- A path and what it was taken from. -/
structure Placed where
  path : String
  origin : Origin
  deriving DecidableEq, Repr

/-- Where everything of a project lies. -/
structure Layout where
  projectRoot : Placed
  stateDir : String
  dataDir : Placed
  fixesDir : Placed
  extraIds : String
  database : String
  config : Placed
  deriving DecidableEq, Repr

namespace Layout

/-! ### Names -/

/-- The directory that makes a directory the root of a project. -/
def stateDirName : String := ".fixtool"

/-- The directory of the data, inside the state directory. -/
def dataDirName : String := "data"

/-- The directory of the checkout, inside the data directory. -/
def fixesDirName : String := "protonfixes"

/-- The list of further identifiers, inside the data directory. -/
def extraIdsName : String := "proton-steamids.txt"

/-- The provider database, inside the data directory. -/
def databaseName : String := "providers.db"

/-- The settings file, inside the state directory. -/
def configName : String := "config.toml"

/-! ### Resolution -/

/-- The path that a flag or else a variable gives, as seen from `base`. -/
def given? (env : Environment) (variableName base : String) (flag : Option String) :
    Option Placed :=
  match flag with
  | some path => some ⟨Path.join base path, .flag⟩
  | none => (env.nonBlank? variableName).map fun path => ⟨Path.join base path, .env⟩

/-- The innermost directory around the working directory that has a state directory, or else the
working directory itself. -/
def findRoot (isDir : String → Bool) (cwd : String) : String :=
  ((Path.ancestors cwd).find? fun dir => isDir (Path.join dir stateDirName)).getD cwd

/-- The layout seen from a working directory. -/
def resolve (isDir : String → Bool) (env : Environment) (cwd : String) (overrides : Overrides) :
    Except Failure Layout :=
  if cwd = "" then .error .noWorkingDirectory
  else
    let root := (given? env "FIXTOOL_PROJECT_ROOT" cwd overrides.projectRoot).getD
      ⟨findRoot isDir cwd, .heuristic⟩
    let state := Path.join root.path stateDirName
    let data := (given? env "FIXTOOL_DATA_DIR" root.path overrides.dataDir).getD
      ⟨Path.join state dataDirName, .default⟩
    let fixes := (given? env "FIXTOOL_FIXES_DIR" root.path overrides.fixesDir).getD
      ⟨Path.join data.path fixesDirName, .default⟩
    let config := (given? env "FIXTOOL_CONFIG" root.path overrides.config).getD
      ⟨Path.join state configName, .default⟩
    .ok {
      projectRoot := root
      stateDir := state
      dataDir := data
      fixesDir := fixes
      extraIds := Path.join data.path extraIdsName
      database := Path.join data.path databaseName
      config := config }

/-! ### Diagnostics -/

/-- A line of the diagnostics. -/
def diagnosticsLine (label path : String) : Option Origin → String
  | some origin => label ++ "=" ++ Path.display path ++ " (" ++ origin.text ++ ")"
  | none => label ++ "=" ++ Path.display path

/-- All paths of a layout for people, each on a line. -/
def diagnostics (l : Layout) : String :=
  "\n".intercalate
    [diagnosticsLine "project_root" l.projectRoot.path l.projectRoot.origin,
      diagnosticsLine "state_dir" l.stateDir none,
      diagnosticsLine "data_dir" l.dataDir.path l.dataDir.origin,
      diagnosticsLine "fixes_dir" l.fixesDir.path l.fixesDir.origin,
      diagnosticsLine "extra_ids_path" l.extraIds none,
      diagnosticsLine "db_path" l.database none,
      diagnosticsLine "config_path" l.config.path l.config.origin]

end Layout

end GameFixes
