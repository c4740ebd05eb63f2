import GameFixes.Action
import GameFixes.Depot.Tool

/-!
# Updating the checkout

A checkout that is not there is cloned from an address; one that is there catches up with its
origin.
-/

namespace GameFixes.Checkout

/-- What an update did to the checkout. -/
inductive UpdateAction
  | cloned
  | pulled
  deriving DecidableEq, Repr

/-- How it is written what an update did. -/
def UpdateAction.text : UpdateAction → String
  | .cloned => "cloned"
  | .pulled => "pulled"

/-- What an update did, and what the version control tool said about it. -/
structure UpdateReport where
  action : UpdateAction
  output : String
  deriving DecidableEq, Repr

/-- Fails if the version control tool cannot be run with some arguments: it is not there, or an
argument has a NUL in it. -/
def needTool (hasTool : Bool) (arguments : List String) : Action Unit :=
  unless hasTool && arguments.all (!·.toList.contains '\x00') do
    throw (.gitNotRun (" ".intercalate arguments))

/-- Runs the version control tool with some variables; `place` are words in front of the arguments.
The result is what it says, without the blanks around that. -/
def runTool (env : Environment) (place arguments : List String) : Action String := do
  let outcome := Depot.Tool.run (← get) env (place ++ arguments)
  set outcome.site
  if outcome.isDone then return String.ofList (Text.trim outcome.said.toList)
  throw (.git (" ".intercalate arguments))

/-- Lets the checkout catch up with its origin. -/
def pull (env : Environment) (hasTool : Bool) (path : String) : Action UpdateReport := do
  needTool hasTool ["pull", "origin"]
  return ⟨.pulled, ← runTool env ["-C", path] ["pull", "origin"]⟩

/-- Clones the checkout; the directories around it are created first. -/
def clone (env : Environment) (hasTool : Bool) (address path : String) : Action UpdateReport := do
  match Path.parent? path with
  | some dir => if dir ≠ "" then Action.createDirs dir (.createDir dir)
  | none => pure ()
  needTool hasTool ["clone", address, path]
  return ⟨.cloned, ← runTool env [] ["clone", address, path]⟩

/-- Clones the checkout, or lets it catch up with its origin if it is there. -/
def update (env : Environment) (hasTool : Bool) (address path : String) : Action UpdateReport := do
  if (← get).contains path then pull env hasTool path else clone env hasTool address path

end GameFixes.Checkout
