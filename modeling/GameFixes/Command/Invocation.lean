import GameFixes.Command.Grammar
import GameFixes.Installer.Conversion
import GameFixes.Layout

/-!
# Invocations

What a command line asks the program to do. The options about paths and diagnostics may stand behind
the program or behind any command; the innermost of several counts.
-/

namespace GameFixes.Command

/-- What is to be done. -/
inductive Request
  /-- Sets up the layout. -/
  | init (force : Bool)
  /-- Shows the layout. -/
  | paths
  /-- Updates the checkout. -/
  | sync
  /-- Lists the groups of the checkout. -/
  | groups
  /-- Shows the operations of a group's fixes. -/
  | parse (group : String) (id : Option String) (asJson : Bool)
  /-- Converts a group's fixes. -/
  | convert (group : String) (id : Option String) (format : Installer.Format)
      (outDir : Option String) (keepGoing : Bool)
  /-- Reconciles the checkout with a catalog. -/
  | check (catalogFile : Option String)
  /-- Lists the library games that have fixes. -/
  | matched
  /-- Imports provider records. -/
  | importRecords (path : String)
  /-- Shows the size of the provider database. -/
  | stats
  deriving DecidableEq, Repr

/-- What a command line asks for. -/
structure Invocation where
  overrides : Overrides := {}
  diagnostics : Bool := false
  request : Request
  deriving DecidableEq, Repr

/-! ### The grammar -/

/-- The options that may stand behind every command. -/
def commonOptions : List OptionRule :=
  [⟨"project-root", some .path⟩, ⟨"data-dir", some .path⟩, ⟨"fixes-dir", some .path⟩,
    ⟨"config", some .path⟩, ⟨"diagnostics", none⟩]

/-- A command with options and operands of its own, and no commands in it. -/
def leaf (options : List OptionRule) (operands : List ValueKind) : Grammar :=
  .mk (options ++ commonOptions) operands false false []

/-- The commands about the provider database. -/
def databaseCommands : List (String × Grammar) :=
  [("import", leaf [] [.path]), ("stats", leaf [] [])]

/-- The commands of the program. -/
def programCommands : List (String × Grammar) :=
  [("init", leaf [⟨"force", none⟩] []), ("paths", leaf [] []), ("sync", leaf [] []),
    ("groups", leaf [] []),
    ("parse", leaf [⟨"id", some .text⟩, ⟨"json", none⟩] [.text]),
    ("convert", leaf [⟨"id", some .text⟩, ⟨"format", some (.oneOf ["yaml", "json"])⟩,
      ⟨"out-dir", some .path⟩, ⟨"keep-going", none⟩] [.text]),
    ("check", leaf [⟨"catalog-file", some .path⟩] []), ("matches", leaf [] []),
    ("db", .mk commonOptions [] false true databaseCommands)]

/-- The grammar of the program. -/
def programGrammar : Grammar := .mk commonOptions [] true false programCommands

/-! ### Meaning -/

/-- The value of an option at the innermost command that has it. -/
def innermost? (levels : List Level) (name : String) : Option String :=
  levels.reverse.findSome? (·.option? name)

/-- The paths that options give. -/
def overridesOf (levels : List Level) : Overrides where
  projectRoot := innermost? levels "project-root"
  dataDir := innermost? levels "data-dir"
  fixesDir := innermost? levels "fixes-dir"
  config := innermost? levels "config"

/-- The format that an option names. -/
def formatOf : Option String → Installer.Format
  | some "json" => .json
  | _ => .yaml

/-- The request of a command. -/
def requestOf? (l : Level) : Option Request :=
  match l.name, l.operands with
  | "init", [] => some (.init (l.has "force"))
  | "paths", [] => some .paths
  | "sync", [] => some .sync
  | "groups", [] => some .groups
  | "parse", [group] => some (.parse group (l.option? "id") (l.has "json"))
  | "convert", [group] =>
    some (.convert group (l.option? "id") (formatOf (l.option? "format")) (l.option? "out-dir")
      (l.has "keep-going"))
  | "check", [] => some (.check (l.option? "catalog-file"))
  | "matches", [] => some .matched
  | "import", [path] => some (.importRecords path)
  | "stats", [] => some .stats
  | _, _ => none

/-- What a command line asks for. Without a command it asks for help. -/
def Invocation.ofWords (words : List String) : Except Ending Invocation := do
  let levels ← readAll programGrammar words
  match levels.getLast?.bind requestOf? with
  | some request =>
    return ⟨overridesOf levels, (innermost? levels "diagnostics").isSome, request⟩
  | none => throw .help

end GameFixes.Command
