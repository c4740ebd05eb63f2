import GameFixes.Installer.Document

/-!
# Drafts

A document in the making: every section is there, and changes are made to it one at a time. A change
says one thing; of several changes to one field the last counts, and steps are added at the end.
-/

namespace GameFixes.Installer

/-- A document in the making. -/
structure Draft where
  game : GameSection := {}
  steps : List Task := []
  wine : WineSection := {}
  system : SystemSection := {}
  deriving DecidableEq

/-- One change to a draft. -/
inductive Change
  | addStep (verb : String)
  | setArgs (args : String)
  | setExe (exe : String)
  | overrideDll (dll mode : String)
  | setVariable (name value : String)
  | enableEac
  | enableBattleye
  | disableEsync
  | disableFsync
  | limitCpus (count : String)
  deriving DecidableEq, Repr

/-- The tool that every step runs. -/
def stepTool : String := "winetricks"

/-- Makes a change to a draft. -/
def Draft.change (d : Draft) : Change → Draft
  | .addStep verb => { d with steps := d.steps ++ [⟨stepTool, verb⟩] }
  | .setArgs args => { d with game := { d.game with args := some args } }
  | .setExe exe => { d with game := { d.game with exe := some exe } }
  | .overrideDll dll mode =>
    { d with wine := { d.wine with overrides := d.wine.overrides.insert dll mode } }
  | .setVariable name value =>
    { d with system := { d.system with env := d.system.env.insert name value } }
  | .enableEac => { d with wine := { d.wine with eac := some true } }
  | .enableBattleye => { d with wine := { d.wine with battleye := some true } }
  | .disableEsync => { d with wine := { d.wine with esync := some false } }
  | .disableFsync => { d with wine := { d.wine with fsync := some false } }
  | .limitCpus count =>
    { d with system := { d.system with singleCpu := some true, limitCpuCount := some count } }

/-- Makes changes one after another. -/
def Draft.changes (d : Draft) (cs : List Change) : Draft := cs.foldl Draft.change d

/-- The document of a draft, in which no section is empty. -/
def Draft.document (d : Draft) : Document :=
  { game := if d.game.isEmpty then none else some d.game
    steps := d.steps
    wine := if d.wine.isEmpty then none else some d.wine
    system := if d.system.isEmpty then none else some d.system }

@[simp] theorem Draft.changes_nil (d : Draft) : d.changes [] = d := rfl

@[simp] theorem Draft.changes_cons (d : Draft) (c : Change) (cs : List Change) :
    d.changes (c :: cs) = (d.change c).changes cs := rfl

@[simp] theorem Draft.changes_append (d : Draft) (cs ds : List Change) :
    d.changes (cs ++ ds) = (d.changes cs).changes ds :=
  List.foldl_append

end GameFixes.Installer
