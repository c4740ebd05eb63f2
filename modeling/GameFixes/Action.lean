import GameFixes.Failure
import GameFixes.Tree.Site

/-!
# Actions

What is done to a site on behalf of a request. An action may fail; whatever it did before stays
done.
-/

namespace GameFixes

/-- Something done to a site, which may fail. -/
abbrev Action (α : Type) := ExceptT Failure (StateM Site) α

namespace Action

/-- The result of an action, and the site after it. -/
def runOn {α : Type} (a : Action α) (s : Site) : Except Failure α × Site := (ExceptT.run a).run s

/-- Creates a directory and those around it. -/
def createDirs (path : String) (failure : Failure) : Action Unit := do
  let (s, isDone) := (← get).createDirs path
  set s
  unless isDone do throw failure

/-- Writes a file. -/
def write (path : String) (content : List UInt8) : Action Unit := do
  match (← get).write? path content with
  | some s => set s
  | none => throw (.write path)

end Action

end GameFixes
