import GameFixes.Depot.Branching
import GameFixes.Depot.Restoring

/-!
# Switching

Another branch, or a commit without one, comes to count, and the files become what it holds. What
has changed meanwhile stays, if nothing else comes for it, or goes by force; the last commit of a
branch can be set back in the same way.
-/

namespace GameFixes.Depot

/-- What comes to count. -/
inductive Switch
  | branch (name : List Char)
  | commit
  /-- A branch without commits. -/
  | orphan (name : List Char)
  deriving DecidableEq, Repr

/-- How another commit comes to count. -/
structure SwitchPlan where
  target : Switch
  /-- The commit that comes; nothing, if there is none. -/
  commit : Option ObjectName
  /-- What it is called. -/
  text : String
  isForced : Bool := false
  losesIgnored : Bool := true
  /-- The branch that is made for it, if one is. -/
  made : Option BranchPlan := none
  /-- Whether the files stay as they are. -/
  keepsFiles : Bool := false

/-- How the last commit is set back. -/
inductive ResetWay
  | soft
  | mixed
  | hard
  | merge
  | keep
  deriving DecidableEq, Repr

namespace Workspace

/-- The snapshot of a commit, or an empty one without a commit. -/
def snapshotFor? (w : Workspace) (name : Option ObjectName) : Option Snapshot :=
  match name with
  | some name => w.archive.snapshotOf? name
  | none => some []

/-- Lets the stage and the files become those of a snapshot on the way from the last commit. -/
def goTo? (w : Workspace) (s : Snapshot) (isForced losesIgnored : Bool) : Option Workspace :=
  if isForced then w.reset? s else w.advance? ⟨w.headSnapshot, s, losesIgnored⟩

end Workspace

namespace Work

/-- Lets something else count, and writes down what counted before. -/
def makeCount (p : SwitchPlan) : Work Unit := do
  let before ← ask (·.countingText)
  let reason := "checkout: moving from " ++ before ++ " to " ++ p.text
  match p.target, p.commit with
  | .branch name, _ => alter (·.attach (Workspace.branchRef name) reason)
  | .orphan name, _ =>
    need (Reference.isBranchName name && !(← ask (·.hasBranch name)))
    alter (·.attach (Workspace.branchRef name) reason)
  | .commit, some name => alter (·.detach name reason)
  | .commit, none => failure

/-- Lets another branch or commit count. -/
def switch (p : SwitchPlan) : Work Unit := do
  need (← ask fun w => w.canReadStage && (p.isForced || p.keepsFiles || w.stage.conflicts.isEmpty))
  need (← ask fun w => w.isUnlocked (w.statePlace "HEAD"))
  let s ← demand (·.snapshotFor? p.commit)
  if !p.keepsFiles then change (·.goTo? s p.isForced p.losesIgnored)
  match p.made with
  | some plan =>
    -- A branch that counts may be made again at another commit.
    if plan.isForced && (← ask (·.isCounting plan.name)) then
      let name ← given p.commit
      change (·.setRef? (Workspace.branchRef plan.name) name ("branch: Reset to " ++ p.text))
    else change (·.makeBranch? plan)
  | none => pure ()
  makeCount p
  alter Workspace.endWaiting

/-- Sets the last commit back, and the stage and the files if they are meant. -/
def setBack (way : ResetWay) (name? : Option ObjectName) (text : String) (isIntent : Bool) :
    Work Unit := do
  let w ← ask id
  need ((way ≠ .soft && way ≠ .keep) ||
    (!w.hasState "MERGE_HEAD" && w.canReadStage && w.stage.conflicts.isEmpty))
  let s ← demand (·.snapshotFor? name?)
  match way with
  | .soft => pure ()
  | .mixed =>
    need w.canStage
    let gone := (w.stage.entries.filter fun e => (s.at? e.1).isNone).map fun e =>
      (e.1, { e.2 with isIntended := true })
    alter (·.stageSnapshot s)
    if isIntent then alter fun w => w.putStage (gone.foldl (fun stage e => stage.put e.1 e.2) w.stage)
  | .hard => change (·.reset? s)
  | .merge => change (·.retreat? s)
  | .keep =>
    change (·.advance? ⟨w.headSnapshot, s, true⟩)
    alter (·.stageSnapshot s)
  match name? with
  | some name =>
    match w.tip? with
    | some old => setRef "ORIG_HEAD" old ""
    | none => pure ()
    change (·.setTip? name ("reset: moving to " ++ text))
  | none => pure ()
  alter Workspace.endWaiting

end Work

end GameFixes.Depot
