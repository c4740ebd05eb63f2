import GameFixes.Depot.Committing
import GameFixes.Depot.Diffstat

/-!
# Work

What a command does to a depot, step by step. A step may be refused, which ends the work; what was
done before stays.
-/

namespace GameFixes.Depot

/-- Work on a depot. -/
abbrev Work (α : Type) := OptionT (StateM Workspace) α

namespace Work

/-- Goes on only if something is true. -/
def need (b : Bool) : Work Unit := if b then pure () else failure

/-- What is asked of the depot. -/
def ask {α : Type} (f : Workspace → α) : Work α := return f (← get)

/-- What is asked of the depot, if there is an answer. -/
def demand {α : Type} (f : Workspace → Option α) : Work α := do
  match f (← get) with
  | some a => return a
  | none => failure

/-- A value, if there is one. -/
def given {α : Type} : Option α → Work α
  | some a => pure a
  | none => failure

/-- A change of the depot, if it can be made. -/
def change (f : Workspace → Option Workspace) : Work Unit := do set (← demand f)

/-- A change of the depot that can always be made. -/
def alter (f : Workspace → Workspace) : Work Unit := modify f

/-- Says a line. -/
def say (line : String) : Work Unit := modify (·.say (line ++ "\n"))

/-- Work of which nothing is left if it is refused. -/
def whole {α : Type} (work : Work α) : Work α := do
  let before ← get
  match (work.run.run before : Option α × Workspace) with
  | (some a, after) =>
    set after
    return a
  | (none, _) => failure

/-- Whether work was done; what was done in it stays. -/
def attempt (work : Work Unit) : Work Bool := do
  let (result, after) := (work.run.run (← get) : Option Unit × Workspace)
  set after
  return result.isSome

/-- Runs work on a depot: what it leaves behind, and whether it was done. -/
def runOn (work : Work Unit) (w : Workspace) : Workspace × Bool :=
  let (result, w) := (work.run.run w : Option Unit × Workspace)
  (w, result.isSome)

end Work

namespace Workspace

/-- How wide lines may be that are said. -/
def columns (w : Workspace) : Nat :=
  match (w.env.get? "COLUMNS").bind String.toNat? with
  | some n => if n = 0 then 80 else n
  | none => 80

/-- The summary of the differences between two snapshots. -/
def summaryOf (w : Workspace) (s t : Snapshot) : String :=
  Diffstat.summary w.archive.blob? w.columns s t

/-- Whether what is staged is what was committed last. -/
def isStageCommitted (w : Workspace) : Bool :=
  let stage := w.stage
  stage.conflicts.isEmpty && stage.snapshot.same w.headSnapshot

/-- Whether what stands in the directory is what is staged. -/
def isDirStaged (w : Workspace) : Bool :=
  let stage := w.stage
  stage.entries.all fun (p, e) =>
    e.isHeld ||
    match w.standing? p with
    | none => e.item.kind = .nested
    | some n => !w.isChanged stage p e n

end Workspace

end GameFixes.Depot
