import GameFixes.Depot.Pathspec
import GameFixes.Depot.RefLog
import GameFixes.Depot.Reserved

/-!
# Staging

What stands in the directory of a depot becomes part of what the next commit will hold. What is
staged already is looked at again; what is not is taken if it is meant and not ignored.
-/

namespace GameFixes.Depot

namespace Workspace

/-! ### What there is -/

/-- What is looked out for in names. -/
def guard (w : Workspace) : Reserved.Guard :=
  ⟨!Config.isOff w.settings "core.protectntfs", w.isOn "core.protecthfs"⟩

/-- Whether a directory is about a depot of its own that is not part of this one. -/
def isForeign (w : Workspace) (stage : Stage) (p : Place) : Bool :=
  (nestedAt? w.site (w.full p)).isSome && !stage.hasUnder p

/-- Whether something that is not staged would be looked at. -/
def isOpen (w : Workspace) (stage : Stage) (p : Place) : Bool :=
  !p.contains keptName && !stage.knows p &&
    !(Tree.around p).any fun q => w.isForeign stage q || (stage.at? q).any (·.isDir)

/-- What is in the directory and not staged: files, links and depots of their own. -/
def unstaged (w : Workspace) (stage : Stage) : List (Place × Node) :=
  (w.tree.under w.top).filter fun (p, n) =>
    w.isOpen stage p && (n ≠ .dir || w.isForeign stage p)

/-- Whether nothing can be found out about a nested depot: its last commit is not there. -/
def isHollow (w : Workspace) (p : Place) : Bool :=
  (nestedAt? w.site (w.full p)).any fun kept =>
    let shared := sharedOf w.site ∅ kept
    let l : Location := ⟨kept, shared, none⟩
    (Reference.object? w.tree w.naming l Reference.head).any fun name =>
      !((w.site.archiveAt (shared ++ [objectsName])).has name)

/-! ### Taking -/

/-- What comes of staging. -/
structure Staged where
  workspace : Workspace
  stage : Stage
  /-- Whether everything could be kept. -/
  isSound : Bool := true

/-- What is to be staged. -/
structure StagePlan where
  /-- What is meant, by the place and by whether a directory is there. -/
  isMeant : Place → Bool → Bool := fun _ _ => true
  /-- Whether what is not staged yet is taken. -/
  takesNew : Bool := true
  /-- Whether ignored files are left out. -/
  heedsIgnored : Bool := true
  /-- Whether what is gone is not staged any more. -/
  dropsGone : Bool := true
  /-- Whether it is only said that something will be staged. -/
  isIntent : Bool := false
  /-- Whether the rest is staged if something cannot be kept. -/
  isLenient : Bool := false
  /-- Whether it does not matter how line endings were kept before. -/
  startsOver : Bool := false

/-- Stages what stands at a place, if it can be kept; `known` is what was staged before. -/
def take? (w : Workspace) (plan : StagePlan) (known stage : Stage) (p : Place) (n : Node) :
    Option (Workspace × Stage) := do
  let seen := if plan.startsOver then {} else known
  let (item, object?) ← w.takenOf? seen p true n
  -- Where no links are made, a file stands for the link that was staged.
  let isLink := n.isFile && Config.isOff w.settings "core.symlinks" &&
    (known.at? p).any fun e => decide (e.item.kind = .link)
  let item := if isLink then ⟨.link, item.name⟩ else item
  if !Reserved.allows w.guard (item.kind = .link) p then none
  else if plan.isIntent && n ≠ .dir then
    let (w, name) := w.putObject (.blob [])
    return (w, stage.put p { item := ⟨item.kind, name⟩, isIntended := true })
  else
    let w := match object? with
      | some o => (w.putObject o).1
      | none => w
    return (w, stage.put p { item := item, seen := some n })

/-- Stages what stands at a place. What cannot be kept is passed over if that does not matter. -/
def Staged.take? (s : Staged) (plan : StagePlan) (known : Stage) (p : Place) (n : Node) :
    Option Staged :=
  match s.workspace.take? plan known s.stage p n with
  | some (w, stage) => some { s with workspace := w, stage := stage }
  | none => if plan.isLenient then some { s with isSound := false } else none

/-- Looks again at something that is staged. -/
def Staged.renew? (s : Staged) (plan : StagePlan) (known : Stage) (p : Place) (e : Entry) :
    Option Staged :=
  let w := s.workspace
  let gone : Staged := if plan.dropsGone then { s with stage := s.stage.erase p } else s
  if e.isHeld || !plan.isMeant p e.isDir then some s
  else
    match w.standing? p with
    | none => some gone
    | some n =>
      if n = .dir && (w.nestedTip? (p : Place)).isNone then
        if e.isDir then some s else some gone
      else if !e.isIntended && plan.isIntent && !w.isChanged known p e n then some s
      else s.take? plan known p n

/-- Settles a place about which several sides of a merge disagree. -/
def Staged.settle? (s : Staged) (plan : StagePlan) (known : Stage) (p : Place) : Option Staged :=
  if !plan.isMeant p false then some s
  else
    match s.workspace.standing? p with
    | none | some .dir => some { s with stage := s.stage.erase p }
    | some n => s.take? plan known p n

/-- What is staged already, after another look at it. -/
def renewed? (w : Workspace) (plan : StagePlan) : Option Staged :=
  let known := w.stage
  let start : Staged := { workspace := w, stage := known }
  if !w.canStage || (known.entries.any fun (p, e) =>
      e.isDir && plan.isMeant p true && w.isHollow p) then none
  else do
    let s ← known.entries.foldlM (fun s (p, e) => s.renew? plan known p e) start
    known.conflicts.foldlM (fun s (p, _) => s.settle? plan known p) s

/-- What a plan is about that is not staged yet. -/
def newcomers (w : Workspace) (plan : StagePlan) : List (Place × Node) :=
  if plan.takesNew then
    (w.unstaged w.stage).filter fun (p, n) =>
      plan.isMeant p (n = .dir) && !(plan.heedsIgnored && w.isIgnored p (n = .dir))
  else []

/-- Stages what is in the directory. -/
def staged? (w : Workspace) (plan : StagePlan) : Option Staged := do
  let known := w.stage
  let s ← w.renewed? plan
  (w.newcomers plan).foldlM (fun s (p, n) => s.take? plan known p n) s

/-- The depot after staging. Nothing is written if nothing has changed. -/
def Staged.finish (s : Staged) : Workspace :=
  if s.stage = s.workspace.stage then s.workspace else s.workspace.putStage s.stage

/-- Stages the changes of what is staged already. -/
def stageChanges? (w : Workspace) (isMeant : Place → Bool → Bool) : Option Workspace :=
  (w.staged? { isMeant := isMeant, takesNew := false }).map Staged.finish

/-- Stages the files that are staged already once more, as if they were new. -/
def renormalized? (w : Workspace) (plan : StagePlan) : Option Staged :=
  let known := w.stage
  known.entries.foldlM (fun s (p, e) =>
    if e.isDir || !plan.isMeant p false then some s
    else (w.standing? p).bind fun n => s.take? { plan with startsOver := true } known p n)
    { workspace := w, stage := known }

/-- Stages it for some files whether they may be run. Nothing else than a file can be run. -/
def Staged.setPrograms (s : Staged) (isProgram : Bool) (isMeant : Place → Bool → Bool) : Staged :=
  s.stage.entries.foldl (fun s (p, e) =>
    if !isMeant p e.isDir then s
    else
      match e.item.kind with
      | .file | .program =>
        let item : Item := ⟨if isProgram then .program else .file, e.item.name⟩
        { s with stage := s.stage.put p { e with item := item } }
      | .link | .directory | .nested => { s with isSound := false }) s

/-! ### Paths -/

/-- The paths that a command is given, seen from the working directory. -/
def pathspecs? (w : Workspace) (paths : List String) : Option (List Pathspec) :=
  paths.mapM fun path =>
    Pathspec.ofPath? (.ofEnvironment w.env) w.top w.site.cwd (bytesOf path)

/-- Whether a path names something that is ignored and not staged. -/
def namesIgnored (w : Workspace) (spec : Pathspec) : Bool :=
  let isStaged := w.stage.entries.any fun (p, e) => spec.covers p e.isDir
  match w.standing? spec.place with
  | some n => spec.place ≠ [] && !isStaged && w.isIgnored spec.place (n = .dir)
  | none => false

/-- Whether a path stands for something that is staged. -/
def isStaged (w : Workspace) (spec : Pathspec) : Bool :=
  w.stage.entries.any (fun (p, e) => spec.covers p e.isDir) ||
    w.stage.conflicts.any fun (p, _) => spec.covers p false

/-- Whether a path stands for something that can be staged, or is there at all. -/
def canAdd (w : Workspace) (heeds : Bool) (spec : Pathspec) : Bool :=
  spec.manner.isExcluding || spec.place = [] ||
    (!spec.manner.byName && !spec.manner.folds && (w.standing? spec.place).isSome) ||
    w.isStaged spec ||
    (w.unstaged w.stage).any fun (p, n) =>
      spec.covers p (n = .dir) && !(heeds && w.isIgnored p (n = .dir))

/-- Whether a path leads into a nested depot. -/
def entersNested (w : Workspace) (spec : Pathspec) : Bool :=
  w.stage.entries.any fun (p, e) => e.isDir && Tree.isUnder p spec.place

/-- Whether a path leads through a link. -/
def passesLink (w : Workspace) (spec : Pathspec) : Bool :=
  (Tree.around spec.place).any fun p =>
    match w.tree.at? (w.full p) with
    | some (.link _) => true
    | _ => false

end Workspace

end GameFixes.Depot
