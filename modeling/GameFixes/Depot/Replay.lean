import GameFixes.Depot.Merging

/-!
# Making changes again

What a commit has changed is changed once more on top of another one, or it is taken back. A whole
branch can be moved onto another commit in this way, one commit after the other.
-/

namespace GameFixes.Depot

/-- What happens to a change that changes nothing where it is made again. -/
inductive Emptiness
  | refused
  | dropped
  | kept
  deriving DecidableEq, Repr

/-- How a change is made again. -/
structure ReplayPlan where
  /-- Whether it is taken back instead. -/
  isUndone : Bool := false
  /-- Which of the commits before a merge counts. -/
  mainline : Option Nat := none
  /-- Whether a commit is made. -/
  commits : Bool := true
  /-- Whether the branch may just go forward. -/
  mayForward : Bool := false
  /-- What happens to a commit that was empty from the start, and to one that has become so. -/
  empty : Emptiness := .refused
  redundant : Emptiness := .refused
  favor : Option TextMerge.Favor := none
  /-- What stands below the message. -/
  notes : List String := []
  /-- Whether the message says where the change is from. -/
  saysSource : Bool := false
  /-- The file that says which commit is waited for. -/
  mark : String
  reason : String

/-- How a branch is moved. -/
structure RebasePlan where
  /-- What the branch has in common with this is not made again. -/
  upstream : ObjectName
  onto : ObjectName
  isForced : Bool := false
  isQuiet : Bool := false
  favor : Option TextMerge.Favor := none

namespace Archive

/-- The commit before another one that counts, if there is one; a merge has several. -/
def parentFor? (a : Archive) (mainline : Option Nat) (name : ObjectName) :
    Option (Option ObjectName) :=
  match a.parents name, mainline with
  | [], none => some none
  | [p], none | [p], some 1 => some (some p)
  | l, some (n + 1) => if 2 ≤ l.length then l[n]?.map some else none
  | _, _ => none

/-- What a commit has changed: the places with the items before and behind it. -/
def changesIn (a : Archive) (name : ObjectName) : List (Place × Option Item × Option Item) :=
  let new := (a.snapshotOf? name).getD []
  let old := (((a.parents name).head?).bind a.snapshotOf?).getD []
  let places := ((old ++ new).map (·.1)).eraseDups.mergeSort fun p q => p ≤ q
  (places.map fun p => (p, old.at? p, new.at? p)).filter fun (_, x, y) => x ≠ y

/-- The commits that one has and another one lacks, the first one first. Merges do not count, nor
commits that have changed the same as one of the other side. -/
def ownCommits (a : Archive) (tip other : ObjectName) : List ObjectName :=
  let behind := a.ancestors [other]
  let mine := (a.ancestors [tip]).filter fun n => !behind.contains n && (a.parents n).length < 2
  let common := a.ancestors [tip]
  let theirs := (behind.filter fun n => !common.contains n).map a.changesIn
  -- Every commit stands behind those that it comes after.
  let steps (n : ObjectName) : Nat := (a.ancestors [n]).length
  (mine.filter fun n => !theirs.contains (a.changesIn n)).mergeSort fun x y => steps x ≤ steps y

/-- Whether the history from one commit to another is a line. -/
def isLine (a : Archive) (old tip : ObjectName) : Bool :=
  let behind := a.ancestors [old]
  ((a.ancestors [tip]).filter fun n => !behind.contains n).all fun n => (a.parents n).length = 1

end Archive

namespace Workspace

/-- The short form of the name of an object. -/
def shortName (name : ObjectName) : String := String.ofList (name.toList.take 7)

/-- What a commit is called in a conflict. -/
def commitLabel (name : ObjectName) (c : Commit) : String :=
  shortName name ++ " (" ++ Message.subject c.message ++ ")"

/-- The message with which a change is made again, or taken back. -/
def replayMessage (p : ReplayPlan) (name : ObjectName) (c : Commit) : String :=
  if p.isUndone then
    let before := match p.mainline.bind fun n => c.parents[n - 1]? with
      | some parent => ", reversing\nchanges made to " ++ parent
      | none => ""
    let subject := Message.subject c.message
    let title := match Text.after? "Revert \"".toList subject.toList with
      | some rest => "Reapply \"" ++ String.ofList rest
      | none => "Revert \"" ++ subject ++ "\""
    p.notes.foldl (fun message note => Message.addNote note message)
      (title ++ "\n\nThis reverts commit " ++ name ++ before ++ ".\n")
  else
    let message := if p.saysSource then
      Message.addNote ("(cherry picked from commit " ++ name ++ ")") c.message else c.message
    p.notes.foldl (fun message note => Message.addNote note message) message

/-- Whether nothing has changed since the last commit, neither staged nor in the directory. -/
def isClean (w : Workspace) : Bool := w.isStageCommitted && w.isDirStaged

end Workspace

namespace Work

/-- Makes a change once more, or takes it back. -/
def replay (p : ReplayPlan) (name : ObjectName) : Work Unit := do
  need (← ask fun w => w.canReadStage && w.stage.conflicts.isEmpty &&
    (!p.commits || w.isStageCommitted))
  let archive ← ask (·.archive)
  let c ← demand (·.archive.commit? name)
  let parent? ← given (archive.parentFor? p.mainline name)
  let tip? ← ask (·.tip?)
  if p.mayForward && !p.isUndone && parent? = tip? && parent?.isSome then
    let old ← ask (·.headSnapshot)
    let new ← demand (·.archive.snapshotOf? name)
    change (·.advance? ⟨old, new, true⟩)
    change (·.setTip? name (p.reason ++ ": fast-forward"))
  else
    let before := (parent?.bind archive.snapshotOf?).getD []
    let behind ← demand (·.archive.snapshotOf? name)
    let ours ← ask fun w => if p.commits then w.headSnapshot else w.stage.snapshot
    let label := Workspace.commitLabel name c
    let m := if p.isUndone then
        Merge.merge archive ⟨{ theirs := "parent of " ++ label }, p.favor⟩ behind ours before
      else Merge.merge archive ⟨{ theirs := label }, p.favor⟩ before ours behind
    let message := Workspace.replayMessage p name c
    change (·.applyMerge? ours m)
    if !m.conflicts.isEmpty then
      alter fun w => w.putState "MERGE_MSG" (w.withConflictsNoted (Workspace.endedText message))
      alter fun w => if p.commits then w.putState p.mark (name ++ "\n") else w
      failure
    else if p.commits then
      let isSame := m.snapshot.same ours
      let wasEmpty := before.same behind
      let how := if wasEmpty && !p.isUndone then p.empty else p.redundant
      if isSame && how = .dropped then pure ()
      else
        alter fun w => (w.putState "MERGE_MSG" message).putState p.mark (name ++ "\n")
        need (!isSame || how = .kept)
        need (← ask (·.canSign))
        let author ← demand fun w => if p.isUndone then w.signature? "author" else some c.author
        let message := if p.isUndone then Message.clean .blanks '#' message else message
        need (message ≠ "" || how = .kept)
        change (·.record? ⟨m.snapshot, tip?.toList, author, message⟩ p.reason)
        alter (·.eraseStates ["MERGE_MSG", "CHERRY_PICK_HEAD", "REVERT_HEAD", "AUTO_MERGE"])

/-- Makes changes again, one after the other; if one of them cannot be made, it is written down what
is left to do. -/
def replayAll (p : ReplayPlan) (names : List ObjectName) : Work Unit := do
  need (← ask fun w => !w.hasState "sequencer" && w.canReadStage && w.stage.conflicts.isEmpty)
  match names with
  | [name] => replay p name
  | names =>
    need (!names.isEmpty && (← ask (·.isStageCommitted)))
    let head ← demand (·.tip?)
    names.zipIdx.forM fun (name, i) => do
      let left := names.drop i
      let word := if p.isUndone then "revert " else "pick "
      alter (·.putState "sequencer/head" (head ++ "\n"))
      alter (·.putState "sequencer/todo"
        (String.join (left.map fun n => word ++ Workspace.shortName n ++ "\n")))
      replay p name
    alter (·.eraseStates ["sequencer"])

/-- Gives up making changes again: everything is as it was before. -/
def abandonReplay : Work Unit := do
  let w ← ask id
  need (w.hasState "CHERRY_PICK_HEAD" || w.hasState "REVERT_HEAD" || w.hasState "sequencer")
  let before := (w.stateText? "sequencer/head").map fun text =>
    String.ofList (text.toList.takeWhile (· ≠ '\n'))
  let name ← given (before.or w.tip?)
  let s ← demand (·.archive.snapshotOf? name)
  change (·.retreat? s)
  change (·.setTip? name ("reset: moving to " ++ name))
  alter Workspace.endMerge
  alter (·.eraseStates ["CHERRY_PICK_HEAD", "REVERT_HEAD", "sequencer"])

/-- The directory that says which branch is being moved. -/
def movingName : String := "rebase-merge"

/-- Writes down that a branch is being moved. -/
def noteMoving (ref : RefName) (head onto : ObjectName) (left : List ObjectName) : Work Unit :=
  alter fun w =>
    let put (name text : String) (w : Workspace) : Workspace :=
      w.putState (movingName ++ "/" ++ name) (text ++ "\n")
    put "head-name" (if ref = Reference.head then "detached HEAD"
        else stringOfLossy (Text.ofOctets ref))
      (put "orig-head" head (put "onto" onto
        (put "git-rebase-todo" ("\n".intercalate (left.map ("pick " ++ ·))) w)))

/-- Lets the branch that was moved count again. -/
def endMoving (ref : RefName) (onto : ObjectName) : Work Unit := do
  if ref ≠ Reference.head then
    let name ← demand (·.tip?)
    let text := stringOfLossy (Text.ofOctets ref)
    change (·.setRef? ref name ("rebase (finish): " ++ text ++ " onto " ++ onto))
    alter (·.attach ref ("rebase (finish): returning to " ++ text))
  alter (·.eraseStates [movingName, "REBASE_HEAD", "AUTO_MERGE", "MERGE_MSG"])

/-- Moves the branch that counts onto another commit. -/
def rebase (p : RebasePlan) : Work Unit := do
  need (← ask fun w => !w.hasState movingName && !w.hasState "rebase-apply" && w.isClean)
  let archive ← ask (·.archive)
  let head ← demand (·.tip?)
  let ref ← ask (·.headRef)
  let name := match Reference.branch? ref with
    | some name => "Current branch " ++ stringOfLossy (Text.ofOctets name)
    | none => "HEAD"
  let isThere := archive.mergeBases head p.onto = [p.onto] &&
    archive.mergeBases head p.upstream = [p.onto] && archive.isLine p.onto head
  if isThere && !p.isForced then
    if p.isQuiet then pure () else say (name ++ " is up to date.")
  else
    let names := archive.ownCommits head p.upstream
    setRef "ORIG_HEAD" head ""
    let old ← demand (·.archive.snapshotOf? head)
    let new ← demand (·.archive.snapshotOf? p.onto)
    change (·.advance? ⟨old, new, true⟩)
    alter (·.detach p.onto ("rebase (start): checkout " ++ p.onto))
    names.zipIdx.forM fun (name, i) => do
      noteMoving ref head p.onto (names.drop (i + 1))
      let isDone ← attempt (replay { mayForward := !p.isForced, empty := .kept
                                     redundant := .dropped, favor := p.favor
                                     mark := "REBASE_HEAD", reason := "rebase (pick)" } name)
      if !isDone then
        alter (·.putState "REBASE_HEAD" (name ++ "\n"))
        failure
    endMoving ref p.onto

/-- Gives up moving a branch: everything is as it was before. -/
def abandonRebase : Work Unit := do
  let line (name : String) : Work String := do
    let text ← demand (·.stateText? (movingName ++ "/" ++ name))
    return String.ofList (text.toList.takeWhile (· ≠ '\n'))
  let head ← line "orig-head"
  let ref := (← line "head-name").toList
  let s ← demand (·.archive.snapshotOf? head)
  change (·.reset? s)
  if Reference.branch? ref = none then alter (·.detach head "rebase (abort): returning")
  else alter (·.attach ref ("rebase (abort): returning to " ++ String.ofList ref))
  alter (·.eraseStates [movingName, "REBASE_HEAD", "AUTO_MERGE", "MERGE_MSG"])

end Work

end GameFixes.Depot
