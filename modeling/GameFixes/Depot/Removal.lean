import GameFixes.Depot.Staging

/-!
# Removing and moving

What is staged can be taken away, from the directory of the depot too, and it can be moved. Nothing is
taken away that is nowhere else, unless by force.
-/

namespace GameFixes

/-- The site in which what stands at a place and under it is at another place, with all that is kept
there. -/
def Site.move (s : Site) (source target : Place) : Site :=
  let moved (p : Place) : Place :=
    if source.isPrefixOf p then target ++ p.drop source.length else p
  { s with
    tree := ⟨s.tree.nodes.map fun (p, n) => (moved p, n)⟩
    archives := s.archives.map fun (p, a) => (moved p, a)
    stages := s.stages.map fun (p, stage) => (moved p, stage)
    programs := s.programs.map moved }

namespace Depot

namespace Workspace

/-! ### Removing -/

/-- Whether a directory holds something. -/
def holdsSomething (w : Workspace) (p : Place) : Bool := !(w.tree.children (w.full p)).isEmpty

/-- Whether a nested depot is kept in its own directory, where it has to stay. -/
def keepsItself (w : Workspace) (p : Place) : Bool :=
  nestedAt? w.site (w.full p) = some (w.full p ++ [keptName])

/-- The site without what was staged for a place. -/
def dropEntry (w : Workspace) (p : Place) (isDir : Bool) : Workspace :=
  match w.standing? p with
  | none => w
  | some .dir =>
    if isDir then w.withTree ((w.tree.clear (w.full p)).erase (w.full p)) else w
  | some _ => w.removeAt p

/-- Whether the removal of something that is staged would lose what is nowhere else; `isKept` says
that it stays in the directory. -/
def losesOnRemoval (w : Workspace) (isKept : Bool) (p : Place) (e : Entry) : Bool :=
  match w.standing? p with
  | none => false
  | some n =>
    if n = .dir && !e.isDir then false
    else
      let isLocal := w.isChanged w.stage p e n || (e.isDir && w.holdsSomething p)
      let isNew := !e.isIntended && w.headSnapshot.at? p ≠ some e.item
      if e.isIntended then !isKept else (isLocal && isNew) || (!isKept && (isLocal || isNew))

/-- What a removal is about. -/
structure RemovalPlan where
  specs : List Pathspec
  /-- Whether directories are removed. -/
  isDeep : Bool := false
  isForced : Bool := false
  /-- Whether everything stays in the directory. -/
  isKept : Bool := false
  /-- Whether a path need not stand for anything. -/
  isLenient : Bool := false

/-- Removes from the stage what paths stand for, and from the directory unless it is to stay there.
What would be lost is only removed by force. -/
def remove? (w : Workspace) (plan : RemovalPlan) : Option Workspace :=
  let stage := w.stage
  let places := stage.entries.map (fun (p, e) => (p, e.isDir)) ++
    stage.conflicts.map fun (p, _) => (p, false)
  let isMeant (p : Place) (isDir : Bool) : Bool := Pathspec.anyCovers plan.specs p isDir
  let isFit (s : Pathspec) : Bool :=
    let places := if s.manner.isExcluding then
      places.filter fun (p, isDir) => (Pathspec.meaning plan.specs).any (·.covers p isDir)
      else places
    let found := places.filterMap fun (p, isDir) => s.match? p isDir
    if found.isEmpty then plan.isLenient
    else plan.isDeep || found.any (· ≠ .inside)
  let gone := places.filter fun (p, isDir) => isMeant p isDir
  let isBlocked := !plan.isKept && ((match gone with
    | (p, isDir) :: _ => w.standing? p = some .dir && !isDir
    | [] => false) || gone.any fun (p, isDir) => isDir && w.keepsItself p)
  let isLost := !plan.isForced && stage.entries.any fun (p, e) =>
    isMeant p e.isDir && w.losesOnRemoval plan.isKept p e
  if !w.canStage || !plan.specs.all isFit || isBlocked || isLost then none
  else if gone.isEmpty then some w
  else
    let w := w.putStage (gone.foldl (fun stage (p, _) => stage.erase p) stage)
    -- The stage is settled, now the directory.
    some (if plan.isKept then w else gone.foldl (fun w (p, isDir) => w.dropEntry p isDir) w)

/-! ### Moving -/

/-- The stage in which what is staged for a place and in it is staged elsewhere. -/
def moveStaged (stage : Stage) (source target : Place) : Stage :=
  let moved (p : Place) : Place :=
    if source.isPrefixOf p then target ++ p.drop source.length else p
  { stage with
    entries := (stage.entries.filter (·.1 ≠ target)).map fun (p, e) => (moved p, e) }

/-- Moves what stands at a place to another one, where nothing stands unless a file is to be
replaced by force. Something in it must be staged. -/
def move? (w : Workspace) (isForced : Bool) (source target : Place) : Option Workspace :=
  let stage := w.stage
  match w.standing? source with
  | none => none
  | some n =>
    let standing := w.standing? target
    let isFree := standing.isNone || (isForced && n ≠ .dir && standing ≠ some .dir)
    let isDirAround := target.length = 1 || w.standing? target.dropLast = some .dir
    let isInItself := source.isPrefixOf target
    let hasStaged := if n = .dir then stage.entries.any (source.isPrefixOf ·.1)
      else (stage.at? source).isSome
    if !w.canStage || source = [] || target = [] || !isFree || !isDirAround || isInItself ||
        !hasStaged || !Reserved.allows w.guard false target then none
    else
      let w := w.withTree (w.tree.erase (w.full target))
      let w := { w with site := w.site.move (w.full source) (w.full target) }
      some (w.putStage (moveStaged stage source target))

/-- Moves what stands at some places: into a directory, or the only one to a place. What cannot be
moved is passed over if `isLenient`. -/
def moveAll? (w : Workspace) (isForced isLenient : Bool) (sources : List Place)
    (target : Pathspec) : Option Workspace :=
  let move? (w : Workspace) (p q : Place) : Option Workspace :=
    (w.move? isForced p q).or (if isLenient then some w else none)
  if target.place = [] || w.standing? target.place = some .dir then
    sources.foldlM (fun w p => move? w p (target.place ++ p.getLast?.toList)) w
  else
    match sources with
    | [p] =>
      if target.isDir && w.standing? p ≠ some .dir then none else move? w p target.place
    | _ => none

end Workspace

end Depot

end GameFixes
