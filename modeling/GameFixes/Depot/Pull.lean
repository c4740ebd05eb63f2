import GameFixes.Depot.Fetch
import GameFixes.Depot.Shelf

/-!
# Catching up

What another depot shows is fetched, and what of it is to be merged comes into the branch that
counts: the branch goes forward, or is merged, or its own commits are moved.
-/

namespace GameFixes.Depot

/-- How a branch catches up. -/
structure PullPlan where
  fetch : FetchPlan
  /-- Whether the branch may just go forward, if that is said. -/
  forward : Option Forward := none
  /-- Whether own commits are moved, if that is said. -/
  moves : Option Bool := none
  commits : Bool := true
  squashes : Bool := false
  favor : Option TextMerge.Favor := none
  keepsOurs : Bool := false
  allowsUnrelated : Bool := false
  cleaning : Message.Cleaning := .blanks
  /-- Whether changes go on the shelf for the time of the move. -/
  shelves : Option Bool := none
  isQuiet : Bool := false
  hasSummary : Bool := true
  reason : String

/-- What people call the merge of some things into a branch. -/
def mergeTitle (branch : Option (List Char)) (sources : List String) : String :=
  let target := match branch with
    | some name => stringOfLossy (Text.ofOctets name)
    | none => "HEAD"
  "Merge " ++ ", ".intercalate sources ++
    (if target = "master" then "" else " into " ++ target) ++ "\n"

namespace Workspace

/-- Whether the branch that counts may just go forward, by the settings for catching up; nothing, if
they make no sense. -/
def pullForward? (w : Workspace) : Option (Option Forward) :=
  match w.setting? "pull.ff" with
  | none => some none
  | some "only" => some (some .only)
  | some text => (Config.truth? text.toList).map fun b => some (if b then .allowed else .never)

/-- Whether own commits are moved, by the settings of the branch or those for all. -/
def pullMoves? (w : Workspace) : Option (Option Bool) :=
  let own := w.branch?.bind fun b => w.branchValue? b "rebase"
  match own.or (Config.value? w.settings "pull.rebase") with
  | none => some none
  | some text =>
    if ["merges", "m", "interactive", "i"].contains (String.ofList text) then some (some true)
    else (Config.truth? text).map some

/-- What was fetched to be merged: the objects, and what people call them. -/
def fetchedHeads (w : Workspace) : List (ObjectName × String) :=
  let lines := Text.splitOn '\n' ((w.stateText? fetchedName).getD "").toList
  lines.filterMap fun line =>
    let name := line.take w.naming.length
    match Text.after? "\t\t".toList (line.drop name.length) with
    | some what => if w.naming.isName name then some (String.ofList name, String.ofList what)
        else none
    | none => none

/-- Where a branch has parted from what is remembered of its remote, by all that was ever remembered
of it. -/
def forkPoint? (w : Workspace) (ref : RefName) (tip : ObjectName) : Option ObjectName :=
  let archive := w.archive
  let remembered := (((w.changesOf ref).flatMap fun c => [c.2.1, c.1]) ++
    (w.object? ref).toList).eraseDups.filter fun n => (archive.commit? n).isSome
  let behind := archive.ancestors remembered
  let common := (archive.ancestors [tip]).filter behind.contains
  let covered := archive.ancestors (common.flatMap archive.parents)
  match common.filter fun n => !covered.contains n with
  | [base] => if remembered.contains base then some base else none
  | _ => none

/-- The reference that remembers what is fetched to be merged. -/
def trackedBy? (w : Workspace) (plan : FetchPlan) : Option RefName :=
  match plan.asked with
  | [] => w.branch?.bind fun b =>
    if w.branchValue? b "remote" = some plan.remote then w.tracked? b else none
  | r :: _ => do
    let rules ← w.fetchRules? plan.remote
    let source := if r.source = [] then Reference.head
      else if (Text.after? refStart r.source).isSome then r.source else branchStart ++ r.source
    rules.findSome? (·.image? source)

end Workspace

namespace Work

/-- Fetches from a remote. -/
def fetch (plan : FetchPlan) : Work Unit := do
  let (w, isFine) ← demand (·.fetch? plan)
  set w
  need isFine

/-- Moves the own commits of a branch onto what was fetched. -/
def moveOnto (p : PullPlan) (tip new : ObjectName) (fork : Option ObjectName) : Work Unit := do
  let archive ← ask (·.archive)
  let fork := fork.filter fun f =>
    ((archive.mergeBases tip new).flatMap fun b => archive.mergeBases b f).head? ≠ some f
  rebase ⟨fork.getD new, new, false, p.isQuiet, p.favor⟩

/-- Lets the branch that counts catch up. -/
def pull (p : PullPlan) : Work Unit := do
  need (← ask fun w => w.location.top.isSome && w.canReadStage && w.stage.conflicts.isEmpty &&
    !w.hasState "MERGE_HEAD")
  let usual ← demand (·.pullForward?)
  let usual := if p.moves.isSome && usual = some .only then some .allowed else usual
  let forward := p.forward.or usual
  let usualMoves ← if p.moves.isSome then pure none else demand (·.pullMoves?)
  let moves := (p.moves.or usualMoves).getD false
  let isMovingSaid := (p.moves.or usualMoves).isSome
  let tip? ← ask (·.tip?)
  let shelves := p.shelves.getD (← ask (·.isOn "rebase.autostash"))
  let fork ← if moves then do
      match tip? with
      | none => need (!(← ask (·.hasStage)))
      | some _ => need (shelves || (← ask (·.isClean)))
      ask fun w => (w.trackedBy? p.fetch).bind fun ref => tip?.bind (w.forkPoint? ref)
    else pure none
  fetch { p.fetch with changesHead := true }
  let archive ← ask (·.archive)
  let now? ← ask (·.tip?)
  match tip?, now? with
  | some old, some new =>
    if old ≠ new then
      let s ← given (archive.snapshotOf? old)
      let t ← given (archive.snapshotOf? new)
      change (·.advance? ⟨s, t, false⟩)
  | _, _ => pure ()
  let heads ← ask (·.fetchedHeads)
  match heads, tip? with
  | [], _ => failure
  | [(name, _)], none =>
    let commit ← given (archive.commitNamed? name)
    let s ← given (archive.snapshotOf? commit)
    change (·.advance? ⟨[], s, false⟩)
    change (·.setTip? commit "initial pull")
  | _, none => failure
  | heads, some _ =>
    let tip ← given now?
    let names ← given (heads.mapM fun e => archive.commitNamed? e.1)
    need (names.length = 1 || !(moves || forward = some .only))
    let canForward := names.length = 1 && names.all (archive.isAfter · tip)
    let isDivergent := !canForward && !names.all (archive.isAfter tip)
    need (!(forward = some .only && isDivergent))
    need (!(forward.isNone && !isMovingSaid && isDivergent))
    let branch ← ask (·.branch?)
    let mergeForward ← ask (·.mergeForward)
    let request : MergeRequest :=
      { heads := names.map fun n => (n, n), forward := forward.getD mergeForward
        commits := p.commits, squashes := p.squashes, favor := p.favor, keepsOurs := p.keepsOurs
        allowsUnrelated := p.allowsUnrelated, message := mergeTitle branch (heads.map (·.2))
        cleaning := p.cleaning, reason := p.reason, isQuiet := p.isQuiet
        hasSummary := p.hasSummary }
    match moves && forward ≠ some .only, canForward, names with
    | true, true, _ => merge { request with forward := .only }
    | true, false, [new] =>
      if ← ask (·.isClean) then moveOnto p tip new fork
      else
        shelve {}
        moveOnto p tip new fork
        unshelveAndDrop none false
    | _, _, _ => merge request

end Work

end GameFixes.Depot
