import GameFixes.Depot.Replay
import GameFixes.Depot.Restoring

/-!
# The shelf

Changes that are not committed can be put on a shelf: the files become what the last commit has, and
the changes come back later, perhaps on top of another commit.
-/

namespace GameFixes.Depot

/-- What is put on the shelf. -/
structure ShelfPlan where
  specs : List Pathspec := []
  message : Option String := none
  /-- Whether what is staged stays. -/
  keepsStage : Bool := false
  /-- Whether files go too that are not staged, and ignored ones. -/
  withNew : Bool := false
  withIgnored : Bool := false

/-- Whether something is meant by a plan. -/
def ShelfPlan.isMeant (plan : ShelfPlan) (p : Place) (isDir : Bool) : Bool :=
  Pathspec.admits plan.specs p isDir

namespace Shelf

/-- The reference to what was put on the shelf last. -/
def ref : RefName := "refs/stash".toList

/-- Who puts things on the shelf if nobody knows. -/
def keeper : Signature := ⟨"git", "git@stash", Workspace.now⟩

/-- What is put on the shelf. -/
structure Shelved where
  base : Snapshot
  stage : Snapshot
  files : Snapshot
  /-- What was not staged. -/
  new : Option Snapshot

end Shelf

namespace Workspace

open Depot.Shelf

/-- The files that are not staged and are meant by a plan. -/
def newFor (w : Workspace) (plan : ShelfPlan) : List (Place × Node) :=
  if plan.withNew || plan.withIgnored then
    (w.unstaged w.stage).filter fun (p, n) =>
      n ≠ .dir && plan.isMeant p false && (plan.withIgnored || !w.isIgnored p false)
  else []

/-- Whether there is something to put on the shelf. -/
def hasChanges (w : Workspace) (plan : ShelfPlan) : Bool :=
  let stage := w.stage
  let head := w.headSnapshot
  (stage.entries.any fun (p, e) => plan.isMeant p e.isDir && (head.at? p ≠ some e.item ||
    (!e.isHeld && match w.standing? p with
      | none => e.item.kind ≠ .nested
      | some n => w.isChanged stage p e n))) ||
    (head.any fun (p, item) => plan.isMeant p item.kind.isDir && (stage.at? p).isNone) ||
    !(w.newFor plan).isEmpty

/-- The depot with a commit by somebody who may not be known, and its name. -/
def putShelfCommit (w : Workspace) (s : Snapshot) (parents : List ObjectName) (message : String) :
    Workspace × ObjectName :=
  let author := (w.signature? "author").getD keeper
  let committer := (w.signature? "committer").getD keeper
  let (a, tree) := w.archive.putSnapshot s
  let (a, name) := a.put (.commit ⟨tree, parents, author, committer, message⟩)
  (w.withArchive a, name)

/-- The name of what lies on the shelf at a position, or of a commit that has its form. -/
def shelved? (w : Workspace) (text : Option String) : Option ObjectName :=
  let text := text.getD "0"
  let isNumber := text ≠ "" && text.toList.all Char.isDigit
  if (w.object? ref).isNone && isNumber then none
  else
    w.commitMeant? (if isNumber then "refs/stash@\x7b" ++ text ++ "\x7d" else text)

/-- What a commit on the shelf holds. -/
def shelfContent? (w : Workspace) (name : ObjectName) : Option Shelved := do
  let a := w.archive
  let c ← a.commit? name
  match c.parents with
  | base :: stage :: rest =>
    return { base := ← a.snapshotOf? base, stage := ← a.snapshotOf? stage
             files := ← a.snapshotOf? name
             new := ← match rest with
               | [] => some none
               | n :: _ => (a.snapshotOf? n).map some }
  | _ => none

/-- The shelf without what lies at a position. -/
def dropShelved? (w : Workspace) (position : Nat) : Option Workspace :=
  let p := Reference.logPlace w.location ref
  match w.tree.at? p with
  | some (.file content) =>
    let lines := (Text.splitOn '\n' (Text.octets content)).filter (· ≠ [])
    if position < lines.length then
      let kept := (lines.reverse.eraseIdx position).reverse
      match kept.getLast?.bind (RefChange.ofLine? w.naming) with
      | some (_, name, _) =>
        let text := kept.flatMap (· ++ ['\n'])
        let w := w.withTree (Reference.putObject w.tree w.location ref name)
        some (w.putKept p (.file (Text.ofOctets text)))
      | none => some (w.eraseRef ref)
    else none
  | _ => none

/-- The position on the shelf that a text says. -/
def shelfPosition? (text : Option String) : Option Nat :=
  match text with
  | none => some 0
  | some text =>
    let s := text.toList
    let inside := ["refs/stash@\x7b", "stash@\x7b"].findSome? fun start =>
      (Text.after? start.toList s).bind fun rest => Text.dropLast? '\x7d' rest
    (String.ofList (inside.getD s)).toNat?

end Workspace

namespace Work

open Depot.Shelf

/-- Puts changes on the shelf. If there are none, nothing happens. -/
def shelve (plan : ShelfPlan) : Work Unit := do
  need (← ask fun w => w.canStage && plan.specs.all w.isStaged)
  let head ← demand (·.tip?)
  if ← ask (·.hasChanges plan) then
    need (← ask fun w => w.stage.conflicts.isEmpty)
    let w ← ask id
    let base := w.headSnapshot
    let c ← demand (·.archive.commit? head)
    let branch := match w.branch? with
      | some name => stringOfLossy (Text.ofOctets name)
      | none => "(no branch)"
    let title := branch ++ ": " ++ Workspace.shortName head ++ " " ++ Message.subject c.message
    let staged := w.stage.snapshot
    -- What stands in the directory counts for the files that are meant.
    let places := w.stage.places.filter fun p => plan.isMeant p false
    let looked ← demand (·.stageAt? places)
    let seen := looked.stage.snapshot
    let files := if plan.specs.isEmpty then seen else
      (seen.filter fun e => plan.isMeant e.1 e.2.kind.isDir) ++
        base.filter fun e => !plan.isMeant e.1 e.2.kind.isDir
    let (w, stageName) := (w.withArchive looked.archive).putShelfCommit staged [head]
      ("index on " ++ title ++ "\n")
    let new := w.newFor plan
    let (w, more) ← if new.isEmpty then pure (w, []) else do
      let items ← given (new.mapM fun (p, n) =>
        (w.takenOf? w.stage p true n).map fun (item, o) => (p, item, o))
      let archive := w.archive.putAll (items.filterMap fun e => e.2.2)
      let (w, name) := (w.withArchive archive).putShelfCommit (items.map fun e => (e.1, e.2.1)) []
        ("untracked files on " ++ title ++ "\n")
      pure (w, [name])
    let message := match plan.message with
      | some text => "On " ++ branch ++ ": " ++ text
      | none => "WIP on " ++ title
    let (w, name) := w.putShelfCommit (files.mergeSort fun a b => a.1 ≤ b.1)
      ([head, stageName] ++ more) (message ++ "\n")
    set w
    change fun w => w.setRef? ref name message
    alter fun w =>
      let p := Reference.logPlace w.location ref
      if (w.tree.at? p).isSome then w else w.putKept p (.file (Text.ofOctets
        (RefChange.line ⟨w.naming.zero, name, w.committer, message⟩)))
    -- The changes are safe, and go away here.
    alter fun w => new.foldl (fun w e => w.removeAt e.1) w
    if plan.specs.isEmpty then
      change (·.reset? base)
      if plan.keepsStage then change (·.reset? staged)
    else
      change (·.restore? { isMeant := plan.isMeant, source := some base, inStage := true
                           dropsRest := true })
      if plan.keepsStage then
        change (·.restore? { isMeant := plan.isMeant, source := some staged, inStage := true
                             dropsRest := true })

/-- Brings changes from the shelf back; with `withStage` what was staged is staged again. -/
def unshelve (text : Option String) (withStage : Bool) : Work Unit := do
  need (← ask fun w => w.canStage && w.stage.conflicts.isEmpty)
  let name ← demand (·.shelved? text)
  let s ← demand (·.shelfContent? name)
  let w ← ask id
  let ours := w.stage.snapshot
  let wantsStage := withStage && !s.base.same s.stage && !ours.same s.stage
  let labels : TextMerge.Labels :=
    { ours := if s.base.same ours then "Version stash was based on" else "Updated upstream"
      theirs := "Stashed changes" }
  let staged := Merge.merge w.archive ⟨labels, none⟩ s.base ours s.stage
  need (!wantsStage || staged.conflicts.isEmpty)
  let m := Merge.merge staged.archive ⟨labels, none⟩ s.base ours s.files
  let before := w.stage
  change (·.applyMerge? ours m)
  let isClear := m.conflicts.isEmpty
  if isClear then
    alter fun w =>
      let stage := w.stage
      let after : Snapshot := if wantsStage then staged.snapshot
        else ours ++ m.snapshot.filter fun e => (ours.at? e.1).isNone
      w.putStage ⟨(after.mergeSort fun a b => a.1 ≤ b.1).map fun (p, item) =>
        (p, match stage.at? p, before.at? p with
          | some e, old => if e.item = item then e else
              match old with
              | some o => if o.item = item then { o with seen := none } else { item := item }
              | none => { item := item }
          | none, _ => { item := item }), []⟩
  let isFree ← ask fun w => (s.new.getD []).all fun e => (w.standing? e.1).isNone
  if isFree then
    change fun w => (s.new.getD []).foldlM (fun w e => w.writeItem? w.stage e.1 e.2) w
  need (isClear && isFree)

/-- Brings changes from the shelf back, and takes them from it. -/
def unshelveAndDrop (text : Option String) (withStage : Bool) : Work Unit := do
  let position ← given (Workspace.shelfPosition? text)
  unshelve text withStage
  change (·.dropShelved? position)

end Work

end GameFixes.Depot
