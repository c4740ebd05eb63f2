import GameFixes.Depot.Merge
import GameFixes.Depot.Work

/-!
# Merging commits

What another history has comes into the one that counts. If nothing happened here since, the branch
just goes forward; otherwise a commit comes after both. Where both have changed the same, the merge
waits for somebody to settle that.
-/

namespace GameFixes.Depot

/-- Whether a branch may just go forward. -/
inductive Forward
  | allowed
  | never
  | only
  deriving DecidableEq, Repr

/-- What is to be merged, and how. -/
structure MergeRequest where
  /-- The commits, by what they are called. -/
  heads : List (String × ObjectName)
  forward : Forward := .allowed
  /-- Whether a commit is made. -/
  commits : Bool := true
  /-- Whether only the changes come, and nothing is known about where they are from. -/
  squashes : Bool := false
  favor : Option TextMerge.Favor := none
  /-- Whether nothing of the others is taken, though they count as merged. -/
  keepsOurs : Bool := false
  /-- Whether histories may have nothing in common. -/
  allowsUnrelated : Bool := false
  message : String
  cleaning : Message.Cleaning := .blanks
  /-- What is said about the change of the branch. -/
  reason : String
  isQuiet : Bool := false
  hasSummary : Bool := true

/-- What is said if there is nothing to merge. -/
def upToDateText : String := "Already up to date."

namespace Archive

/-- The snapshot that two commits come from. If there are several last ones in common, those are merged
first. -/
def commonSnapshot (plan : MergePlan) :
    (fuel : Nat) → Archive → ObjectName → ObjectName → Archive × Snapshot
  | 0, a, _, _ => (a, [])
  | fuel + 1, a, x, y =>
    match a.mergeBases x y with
    | [] => (a, [])
    | first :: rest =>
      let start := (a, (a.snapshotOf? first).getD [], first)
      let (a, s, _) := rest.foldl (fun (a, s, last) next =>
        let (a, base) := commonSnapshot plan fuel a last next
        let m := Merge.merge a plan base s ((a.snapshotOf? next).getD [])
        (m.archive, m.snapshot, next)) start
      (a, s)

/-- What comes of the merge of two commits. -/
def mergeCommits (a : Archive) (plan : MergePlan) (ours theirs : ObjectName) : Merged :=
  let (a, base) := commonSnapshot plan (a.objects.length + 1) a ours theirs
  Merge.merge a plan base ((a.snapshotOf? ours).getD []) ((a.snapshotOf? theirs).getD [])

/-- Some commits without those that others of them come after. -/
def independent (a : Archive) (names : List ObjectName) : List ObjectName :=
  names.eraseDups.filter fun name =>
    !names.any fun other => other ≠ name && a.isAfter other name

end Archive

namespace Workspace

/-- Whether an unfinished merge or the like is waiting. -/
def isWaiting (w : Workspace) : Bool := w.hasState "MERGE_HEAD" || w.hasState "CHERRY_PICK_HEAD"

/-- Whether nothing has to be finished before something else begins. -/
def isSettled (w : Workspace) : Bool :=
  w.canReadStage && w.stage.conflicts.isEmpty && !w.isWaiting

/-- The depot without what is left of a merge that is over. -/
def endMerge (w : Workspace) : Workspace :=
  w.eraseStates ["MERGE_HEAD", "MERGE_RR", "MERGE_MSG", "MERGE_MODE", "AUTO_MERGE"]

/-- The mark of remarks in messages. -/
def remarkMark (w : Workspace) : Char :=
  match (w.setting? "core.commentchar").map String.toList with
  | some [c] => c
  | _ => '#'

/-- A message with a remark about conflicts below it. -/
def withConflictsNoted (w : Workspace) (message : String) : String :=
  let mark := String.ofList [w.remarkMark]
  let names := (w.stage.conflicts.map (·.1)).mergeSort fun p q => p ≤ q
  message ++ "\n" ++ mark ++ " Conflicts:\n" ++
    String.join (names.map fun p => mark ++ "\t" ++ stringOfLossy (Diffstat.pathBytes p) ++ "\n")

/-- A message that ends with a line feed, unless nothing is in it. -/
def endedText (message : String) : String :=
  if message = "" || message.toList.getLast? = some '\n' then message else message ++ "\n"

/-- What a message says about changes of which nobody knows where they are from. -/
def squashText (w : Workspace) (ours : ObjectName) (theirs : List ObjectName) : String :=
  let archive := w.archive
  let behind := archive.ancestors [ours]
  let commits := ((archive.ancestors theirs).filter fun n => !behind.contains n).filter fun n =>
    (archive.commit? n).any fun c => c.parents.length < 2
  let indented (message : String) : String :=
    String.join ((Text.splitOn '\n' (Message.clean .blanks '#' message).toList).map fun line =>
      if line = [] then "\n" else "    " ++ String.ofList line ++ "\n")
  "Squashed commit of the following:\n" ++ String.join (commits.map fun n =>
    match archive.commit? n with
    | some c => "\ncommit " ++ n ++ "\nAuthor: " ++ c.author.name ++ " <" ++ c.author.email ++
        ">\n\n" ++ indented c.message
    | none => "")

/-- Whether a branch may just go forward when it is merged into, by the settings. -/
def mergeForward (w : Workspace) : Forward :=
  match w.setting? "merge.ff" with
  | some "only" => .only
  | some text => if Config.truth? text.toList = some false then .never else .allowed
  | none => .allowed

/-- Whether commits can be signed if they have to be: nobody has a key. -/
def canSign (w : Workspace) : Bool := !w.isOn "commit.gpgsign"

/-- What is staged becomes what a snapshot holds; files that are not staged as they are stay as long as
the snapshot has nothing else for them. Conflicts go away. -/
def retreat? (w : Workspace) (s : Snapshot) : Option Workspace := do
  let stage := w.stage
  let torn := stage.conflicts.map (·.1)
  let kept := stage.entries.filter fun e => !torn.contains e.1
  let back := torn.filterMap fun p => (s.at? p).map fun item => (p, ({ item := item } : Entry))
  let settled : Stage := ⟨kept ++ back, []⟩
  let w ← (w.putStage settled).advance? ⟨settled.snapshot, s, true⟩
  torn.foldlM (fun (w : Workspace) p =>
    match s.at? p, w.standing? p with
    | some item, _ => w.writeItem? w.stage p item
    | none, some .dir | none, none => some w
    | none, some _ => some (w.removeAt p)) w

end Workspace

namespace Work

/-- Lets a reference say an object. -/
def setRef (ref : String) (name : ObjectName) (reason : String) : Work Unit :=
  change (·.setRef? ref.toList name reason)

/-- Says a line, unless that is unwanted. -/
def report (isQuiet : Bool) (line : String) : Work Unit := if isQuiet then pure () else say line

/-- Says the summary of the differences between two commits, unless that is unwanted. -/
def summarize (r : MergeRequest) (old new : ObjectName) : Work Unit := do
  let s ← demand (·.archive.snapshotOf? old)
  let t ← demand (·.archive.snapshotOf? new)
  let text ← ask (·.summaryOf s t)
  if r.isQuiet || !r.hasSummary then pure () else alter (·.say text)

/-- Says that there is nothing to merge. -/
def endUpToDate (r : MergeRequest) : Work Unit := do
  report r.isQuiet (if r.squashes then upToDateText ++ " (nothing to squash)" else upToDateText)
  alter Workspace.endMerge

/-- The first history of a branch is that of a commit. -/
def beginWith (r : MergeRequest) (name : ObjectName) : Work Unit := do
  need (!r.squashes && r.forward ≠ .never && r.heads.length = 1)
  let s ← demand (·.archive.snapshotOf? name)
  change (·.advance? ⟨[], s, true⟩)
  change (·.setTip? name "initial pull")

/-- Lets the branch go forward. -/
def goForward (r : MergeRequest) (head name : ObjectName) : Work Unit := do
  let short (n : ObjectName) : String := String.ofList (n.toList.take 7)
  report r.isQuiet ("Updating " ++ short head ++ ".." ++ short name)
  let old ← demand (·.archive.snapshotOf? head)
  let new ← demand (·.archive.snapshotOf? name)
  change (·.advance? ⟨old, new, true⟩)
  report r.isQuiet "Fast-forward"
  if r.squashes then
    alter fun w => w.putState "SQUASH_MSG" (w.squashText head [name])
  else change (·.setTip? name (r.reason ++ ": Fast-forward"))
  summarize r head name
  alter Workspace.endMerge

/-- Writes down that a merge waits. -/
def leaveWaiting (r : MergeRequest) (message : String) : Work Unit :=
  alter fun w =>
    let heads := String.join (r.heads.map fun e => e.2 ++ "\n")
    ((w.putState "MERGE_HEAD" heads).putState "MERGE_MSG" message).putState "MERGE_MODE"
      (if r.forward = .never then "no-ff" else "")

/-- The conflicts wait to be settled. -/
def leaveConflicts (r : MergeRequest) (head : ObjectName) : Work Unit := do
  let w ← ask id
  if r.squashes then
    alter (·.putState "SQUASH_MSG" (w.squashText head (r.heads.map (·.2))))
    alter (·.putState "MERGE_MSG" (w.withConflictsNoted ""))
  else leaveWaiting r (w.withConflictsNoted (Workspace.endedText r.message))
  report r.isQuiet "Automatic merge failed; fix conflicts and then commit the result."
  failure

/-- Commits what came of a merge. -/
def concludeMerge (r : MergeRequest) (head : ObjectName) (isBehind : Bool) (merged : Snapshot) :
    Work Unit := do
  let message := Message.clean r.cleaning (← ask (·.remarkMark)) r.message
  leaveWaiting r (Workspace.endedText r.message)
  need (message ≠ "" && (← ask (·.canSign)))
  let author ← demand (·.signature? "author")
  let parents := (if isBehind && r.forward ≠ .never then [] else [head]) ++ r.heads.map (·.2)
  let (w, name) ← demand (·.putCommit? ⟨merged, parents, author, message⟩)
  set w
  let text := "Merge made by the '" ++ (if r.keepsOurs then "ours" else "ort") ++ "' strategy."
  report r.isQuiet text
  change (·.setTip? name (r.reason ++ ": " ++ text))
  summarize r head name
  alter Workspace.endMerge

/-- Merges one commit after another that have something in common with the branch. -/
def mergeFully (r : MergeRequest) (head : ObjectName) (isBehind : Bool) : Work Unit := do
  let _ ← demand (·.signature? "committer")
  need (← ask (·.isStageCommitted))
  let ours ← demand (·.archive.snapshotOf? head)
  if r.keepsOurs then concludeMerge r head isBehind ours
  else
    match r.heads with
    | [(name, theirs)] =>
      let m ← ask fun w => w.archive.mergeCommits ⟨{ theirs := name }, r.favor⟩ head theirs
      change (·.applyMerge? ours m)
      m.notes.forM (report r.isQuiet)
      if !m.conflicts.isEmpty then leaveConflicts r head
      else if r.squashes then
        report r.isQuiet "Squash commit -- not updating HEAD"
        alter fun w => w.putState "SQUASH_MSG" (w.squashText head [theirs])
      else if !r.commits then leaveWaiting r (Workspace.endedText r.message)
      else concludeMerge r head isBehind m.snapshot
    | heads =>
      -- Several commits are only merged if nothing is in conflict.
      need (r.favor.isNone && !r.squashes)
      let archive ← ask (·.archive)
      let start : Option (Archive × Snapshot) := some (archive, ours)
      let result := heads.foldl (fun (state : Option (Archive × Snapshot)) (name, theirs) =>
        state.bind fun (a, s) =>
          let (a, base) := a.commonSnapshot ⟨{ theirs := name }, none⟩ (a.objects.length + 1)
            head theirs
          let m := Merge.merge a ⟨{ theirs := name }, none⟩ base s
            ((a.snapshotOf? theirs).getD [])
          if m.conflicts.isEmpty then some (m.archive, m.snapshot) else none) start
      let (archive, merged) ← given result
      change fun w => (w.withArchive archive).advance? ⟨ours, merged, true⟩
      if r.commits then concludeMerge r head isBehind merged
      else leaveWaiting r (Workspace.endedText r.message)

/-- Merges commits into the branch that counts. -/
def merge (r : MergeRequest) : Work Unit := do
  need (← ask (·.isSettled))
  need (!r.heads.isEmpty && !(r.squashes && r.forward = .never))
  let archive ← ask (·.archive)
  match ← ask (·.tip?), r.heads with
  | none, (_, name) :: _ => beginWith r name
  | none, [] => failure
  | some head, heads =>
    need (archive.commitNamed? head).isSome
    let left := archive.independent (head :: heads.map (·.2))
    let r := { r with heads := heads.filter fun e => e.2 ≠ head && left.contains e.2 }
    setRef "ORIG_HEAD" head ""
    match r.heads with
    | [] => endUpToDate r
    | (_, first) :: rest =>
      let isRelated := !(archive.mergeBases head first).isEmpty
      need (isRelated || r.allowsUnrelated)
      let isBehind := archive.isAfter first head
      if isBehind && rest.isEmpty && r.forward ≠ .never then goForward r head first
      else
        need (r.forward ≠ .only)
        mergeFully r head (!left.contains head)

/-- Gives up a merge that waits: the files that it was about are again as they were. -/
def abandonMerge : Work Unit := do
  need (← ask (·.hasState "MERGE_HEAD"))
  let head ← ask (·.headSnapshot)
  change (·.retreat? head)
  alter Workspace.endMerge

end Work

end GameFixes.Depot
