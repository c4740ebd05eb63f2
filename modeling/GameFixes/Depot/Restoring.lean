import GameFixes.Depot.Advance
import GameFixes.Depot.Removal

/-!
# Restoring

Files become again what is staged for them or what a commit has, without a look at what they are
now. What nobody keeps can be cleared away.
-/

namespace GameFixes.Depot

/-- Where something is restored. -/
structure RestorePlan where
  isMeant : Place → Bool → Bool
  /-- What it is restored from; nothing, if what is staged counts. -/
  source : Option Snapshot := none
  inStage : Bool := false
  inDir : Bool := true
  /-- Whether what the source does not have goes away. -/
  dropsRest : Bool := false
  /-- Whether places in conflict are passed over. -/
  passesConflicts : Bool := false
  /-- The side that is written for a place in conflict. -/
  side : Option (Conflict → Option Item) := none

/-- What is cleared away. -/
structure ClearPlan where
  isMeant : Place → Bool → Bool
  withDirs : Bool := false
  /-- Whether ignored files go too, and whether others stay. -/
  withIgnored : Bool := false
  onlyIgnored : Bool := false
  /-- Whether depots of their own go too. -/
  withNested : Bool := false

namespace Workspace

/-- The stage in which some places are as a snapshot has them. -/
def stageFrom (stage : Stage) (p : RestorePlan) (source : Snapshot) : Stage :=
  let coming := source.filter fun e => p.isMeant e.1 e.2.kind.isDir
  let isGone (q : Place) (isDir : Bool) : Bool := p.isMeant q isDir && (source.at? q).isNone
  let kept : Stage := if p.dropsRest then
      ⟨stage.entries.filter fun e => !isGone e.1 e.2.isDir,
        stage.conflicts.filter fun e => !isGone e.1 false⟩
    else stage
  coming.foldl (fun stage (q, item) =>
    match stage.at? q with
    | some e => if e.item = item && !e.isIntended then stage else stage.put q { item := item }
    | none => stage.put q { item := item }) kept

/-- Writes what is staged for some places. -/
def writeStaged? (w : Workspace) (stage : Stage) (isMeant : Place → Bool → Bool) :
    Option Workspace := do
  let come := stage.entries.filter fun (p, e) => isMeant p e.isDir && !e.isIntended &&
    match w.standing? p with
    | some n => w.isChanged stage p e n
    | none => true
  let w ← come.foldlM (fun (w : Workspace) (p, e) => w.writeItem? stage p e.item) w
  return w.putStage (w.withSeen stage fun p => come.any (·.1 = p))

/-- The depot without the files at some places. -/
def dropFiles (w : Workspace) (places : List Place) : Workspace :=
  places.foldl (fun w p =>
    match w.standing? p with
    | some .dir | none => w
    | some _ => w.removeAt p) w

/-- The item that a conflict leaves for a place, if it does. -/
def sideItem? (side : Option (Conflict → Option Item)) (e : Place × Conflict) :
    Option (Place × Item) :=
  side.bind fun f => (f e.2).map (e.1, ·)

/-- Restores some places. -/
def restore? (w : Workspace) (p : RestorePlan) : Option Workspace := do
  let stage := w.stage
  let meantConflicts := stage.conflicts.filter fun e => p.isMeant e.1 false
  if !w.canStage then none
  else
    match p.source, p.inStage with
    | some source, true =>
      let new := stageFrom stage p source
      let gone := (stage.entries.filter fun e => (new.at? e.1).isNone).map (·.1)
      let w := w.putStage new
      if p.inDir then (w.dropFiles gone).writeStaged? new p.isMeant else return w
    | some source, false =>
      let isGone (e : Place × Entry) : Bool :=
        p.dropsRest && p.isMeant e.1 e.2.isDir && (source.at? e.1).isNone
      let w := w.dropFiles ((stage.entries.filter isGone).map (·.1))
      (source.filter fun e => p.isMeant e.1 e.2.kind.isDir).foldlM
        (fun (w : Workspace) (q, item) => w.writeItem? stage q item) w
    | none, _ =>
      if !meantConflicts.isEmpty && !p.passesConflicts && p.side.isNone then none
      else
        let w ← (meantConflicts.filterMap (sideItem? p.side)).foldlM
          (fun (w : Workspace) (q, item) => w.writeItem? stage q item) w
        w.writeStaged? stage p.isMeant

/-! ### Clearing -/

/-- The directories in the directory of a depot that hold nothing that is staged. -/
def looseDirs (w : Workspace) (stage : Stage) : List Place :=
  ((w.tree.under w.top).filter fun (p, n) =>
    n = .dir && w.isOpen stage p && !stage.hasUnder p && !w.isForeign stage p).map (·.1)

/-- The depot without what is not staged. -/
def clear (w : Workspace) (c : ClearPlan) : Workspace :=
  let stage := w.stage
  let isInLoose (p : Place) : Bool :=
    (Tree.around p).any fun q => !stage.hasUnder q
  let goes (p : Place) (isDir : Bool) : Bool :=
    let isIgnored := w.isIgnored p isDir
    c.isMeant p isDir &&
      (if c.onlyIgnored then isIgnored else c.withIgnored || !isIgnored)
  let files := (w.unstaged stage).filter fun (p, n) =>
    goes p (n = .dir) && (n ≠ .dir || (c.withNested && c.withDirs)) && (c.withDirs || !isInLoose p)
  let w' := w.withTree (files.foldl (fun t (p, _) => (t.clear (w.full p)).erase (w.full p)) w.tree)
  if c.withDirs then
    let dirs := ((w.looseDirs stage).filter (goes · true)).mergeSort fun p q => q.length ≤ p.length
    w'.withTree (dirs.foldl (fun t p =>
      if (t.children (w.full p)).isEmpty then t.erase (w.full p) else t) w'.tree)
  else w'

end Workspace

end GameFixes.Depot
