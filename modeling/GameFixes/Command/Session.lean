import GameFixes.Action
import GameFixes.Catalog.Client
import GameFixes.Command.DotEnv
import GameFixes.Layout

/-!
# Sessions

The surroundings of a program: a site, its variables, the network, and what it has written so far.
-/

namespace GameFixes.Command

/-- The surroundings of a program. -/
structure Session where
  site : Site
  env : Environment := ∅
  /-- What attempts to reach the catalog server lead to. -/
  network : Nat → Catalog.Outcome := fun _ => .unsendable
  /-- The places of the version control tool. -/
  tools : List Place := []
  /-- The lines that were written. -/
  lines : List String := []

/-- Why a program stops before its end. -/
inductive Halt
  | failed (f : Failure)
  /-- It breaks off without a word about why. -/
  | aborted
  deriving DecidableEq, Repr

/-- Something that a program does, which may stop it. What was done and written before stays. -/
abbrev Routine (α : Type) := ExceptT Halt (StateM Session) α

namespace Routine

/-- Stops with a failure. -/
def fail {α : Type} (f : Failure) : Routine α := throw (.failed f)

/-- A result, or the stop that its failure means. -/
def ofResult {α : Type} : Except Failure α → Routine α
  | .ok a => pure a
  | .error f => fail f

/-- Writes a line. -/
def say (line : String) : Routine Unit := modify fun s => { s with lines := s.lines ++ [line] }

/-- Writes lines. -/
def sayAll (lines : List String) : Routine Unit :=
  modify fun s => { s with lines := s.lines ++ lines }

/-- What is asked of the site, which may fail. -/
def ask {α : Type} (f : Site → Except Failure α) : Routine α := do ofResult (f (← get).site)

/-- What is done to the site. -/
def act {α : Type} (a : Action α) : Routine α := do
  let (result, site) := a.runOn (← get).site
  modify fun s => { s with site := site }
  ofResult result

end Routine

/-- The name of the version control tool. -/
def toolName : String := "git"

/-- The variable with the directories in which programs are looked for, and what it stands for while
it is not set. -/
def searchVariable : String := "PATH"
def defaultSearch : String := "/bin:/usr/bin"

/-- Whether the version control tool is found where programs are looked for. -/
def Session.hasTool (s : Session) : Bool :=
  let dirs := Text.splitOn ':' ((s.env.get? searchVariable).getD defaultSearch).toList
  dirs.any fun dir =>
    match s.site.placeOf (Path.join (String.ofList dir) toolName) with
    | .ok p => s.tools.contains p
    | .error _ => false

/-- The name of files of variables. -/
def envFileName : String := ".env"

/-- The innermost file of variables in some directories. The search ends at a place where it is not
even clear whether there is one. -/
def findEnvFile (s : Site) : List String → Option String
  | [] => none
  | dir :: dirs =>
    match s.node (Path.join dir envFileName) with
    | .ok n =>
      if n.isFile then some (Path.join dir envFileName) else findEnvFile s dirs
    | .error .missing => findEnvFile s dirs
    | .error _ => none

/-- Takes over the variables of a file, if it is there. -/
def useFile (overrides : Bool) (path : String) : Routine Unit := do
  let s ← get
  match s.site.read? path with
  | some content =>
    match DotEnv.load? overrides s.env content with
    | some env => set { s with env := env }
    | none => throw .aborted
  | none => pure ()

/-- The path of a working directory. -/
def cwdText (p : Place) : String :=
  if p.isEmpty then "/" else String.ofList (p.flatMap fun name => '/' :: Text.decodeLossy name)

/-- Takes over the variables of the innermost file around the working directory that are not set,
and then those of the file in the root of the project; the result is the layout they lead to. -/
def resolveLayout (overrides : Overrides) : Routine Layout := do
  let s ← get
  let cwd := cwdText s.site.cwd
  match findEnvFile s.site (Path.ancestors cwd) with
  | some path => useFile false path
  | none => pure ()
  -- The variables that are known by now say where the project is.
  let initial ← Routine.ofResult (Layout.resolve s.site.isDir (← get).env cwd overrides)
  useFile true (Path.join initial.projectRoot.path envFileName)
  Routine.ofResult (Layout.resolve s.site.isDir (← get).env cwd overrides)

end GameFixes.Command
