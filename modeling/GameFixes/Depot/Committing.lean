import GameFixes.Depot.Message
import GameFixes.Depot.Revision
import GameFixes.Depot.Staging

/-!
# Committing

Commits are made of what is staged, or of a part of it. A commit comes after the last one, which it
may also replace.
-/

namespace GameFixes.Depot

namespace Workspace

/-! ### People -/

/-- The name and the address in a text like that of a signature. -/
def nameAndEmail? (s : List Char) : Option (List Char × List Char) :=
  let name := s.takeWhile (· ≠ '<')
  match s.drop name.length with
  | _ :: rest =>
    if rest.contains '>' then
      some (Message.trimmedLine name, rest.takeWhile (· ≠ '>'))
    else none
  | [] => none

/-- The author who is meant by a text: a name with an address, or a part of one in the history. -/
def authorMeant? (w : Workspace) (text : String) : Option (String × String) :=
  if text.toList.contains '>' then
    (nameAndEmail? text.toList).map fun (n, e) => (String.ofList n, String.ofList e)
  else
    let lower (s : String) : List Char := s.toList.map Char.toLower
    let tips := w.references.map (·.2) ++ w.tip?.toList
    ((w.archive.ancestors tips).reverse.findSome? fun name =>
      (w.archive.commit? name).bind fun c =>
        if Text.occurs (lower text) (lower (c.author.name ++ " <" ++ c.author.email ++ ">")) then
          some (c.author.name, c.author.email)
        else none)

/-- What is said about the author of a commit. -/
structure AuthorPlan where
  /-- Who it is, in a text. -/
  said : Option String := none
  date : Option String := none
  /-- The signature to start with. -/
  base : Option Signature := none

/-- The author that a plan asks for. -/
def authorBy? (w : Workspace) (plan : AuthorPlan) : Option Signature := do
  let date? := plan.date.filter (· ≠ "")
  if (date?.any fun d => !Moment.isRough d.toList) then none
  else
    let base? := plan.base.or (w.signature? "author")
    match plan.said with
    | some text => do
      let (name, email) ← w.authorMeant? text
      signatureOf? name email ((base?.map (·.time)).getD now)
    | none => base?

/-! ### Commits -/

/-- What a commit is made of. -/
structure Draft where
  snapshot : Snapshot
  parents : List ObjectName
  author : Signature
  message : String

/-- The depot with a commit, and its name. The one who commits must be known. -/
def putCommit? (w : Workspace) (d : Draft) : Option (Workspace × ObjectName) := do
  let committer ← w.signature? "committer"
  let (a, tree) := w.archive.putSnapshot d.snapshot
  let (a, name) := a.put (.commit ⟨tree, d.parents, d.author, committer, d.message⟩)
  return (w.withArchive a, name)

/-- Makes a commit and lets it be the last one. -/
def record? (w : Workspace) (d : Draft) (reason : String) : Option Workspace := do
  let (w, name) ← w.putCommit? d
  w.setTip? name (reason ++ ": " ++ Message.subject d.message)

/-- The file with the last message. -/
def messagePlace (w : Workspace) : Place := w.location.kept ++ [bytesOf "COMMIT_EDITMSG"]

/-- The files that say what a merge has come to. -/
def mergeStates : List String :=
  ["MERGE_HEAD", "MERGE_MSG", "MERGE_MODE", "SQUASH_MSG", "CHERRY_PICK_HEAD", "REVERT_HEAD",
    "AUTO_MERGE"]

/-- The commits that are being merged. -/
def mergeHeads (w : Workspace) : List ObjectName :=
  match w.stateText? "MERGE_HEAD" with
  | some text => ((Text.splitOn '\n' text.toList).filter (w.naming.isName ·)).map String.ofList
  | none => []

/-! ### Parts of what is staged -/

/-- The stage of a snapshot in which what is staged for some places stays. -/
def stageOnly (s : Snapshot) (stage : Stage) (isMeant : Place → Bool) : Stage :=
  let base := (Stage.ofSnapshot s).entries.filter fun e => !isMeant e.1
  ((stage.entries.filter fun e => isMeant e.1).foldl (fun stage (p, e) => stage.put p e)
    ⟨base, []⟩)

/-- The places among what is staged and what was committed that some paths stand for; each path must
stand for one. -/
def placesMeant? (w : Workspace) (specs : List Pathspec) : Option (List Place) :=
  let places := (w.stage.entries.map fun (p, e) => (p, e.isDir)) ++
    w.headSnapshot.map fun (p, item) => (p, item.kind.isDir)
  let isFit (s : Pathspec) : Bool := places.any fun (p, isDir) => s.covers p isDir
  if specs.all isFit then
    some ((places.filter fun (p, isDir) => Pathspec.anyCovers specs p isDir).map (·.1)).eraseDups
  else none

/-- The depot with what stands at some places staged, as it is there; what is not is not staged. -/
def stageAt? (w : Workspace) (places : List Place) : Option Workspace := do
  let known := w.stage
  let s ← places.foldlM (fun (s : Staged) p =>
    match s.workspace.standing? p with
    | none => some { s with stage := s.stage.erase p }
    | some n =>
      if n = .dir && (s.workspace.nestedTip? p).isNone then
        some { s with stage := s.stage.erase p }
      else s.take? {} known p n) ⟨w, known, true⟩
  return s.finish

end Workspace

end GameFixes.Depot
