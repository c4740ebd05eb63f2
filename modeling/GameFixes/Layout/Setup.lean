import GameFixes.Action
import GameFixes.Layout

/-!
# Setting up a layout

Creates the directories of a layout and its settings file, as far as they are missing.
-/

namespace GameFixes.Layout

/-- What a setup did. -/
structure SetupReport where
  createdDirs : List String
  wroteConfig : Bool
  deriving DecidableEq, Repr

/-- Creates a directory, unless it is there; the result lists what was created. -/
def createMissing (dir : String) : Action (List String) := do
  if (← get).isDir dir then return []
  else
    Action.createDirs dir (.createDir dir)
    return [dir]

/-- Writes the default settings file, together with the directory that it lies in. -/
def writeConfig (path : String) : Action Unit := do
  match Path.parent? path with
  | some dir => Action.createDirs dir (.createDir dir)
  | none => pure ()
  Action.write path (bytesOf Settings.defaultText)

/-- Creates what is missing of a layout. A settings file that is there is only replaced by
force. -/
def setUp (l : Layout) (force : Bool) : Action SetupReport := do
  let state ← createMissing l.stateDir
  let data ← createMissing l.dataDir.path
  if (← get).contains l.config.path && !force then return ⟨state ++ data, false⟩
  else
    writeConfig l.config.path
    return ⟨state ++ data, true⟩

end GameFixes.Layout
