import GameFixes.Depot.Merging
import GameFixes.Depot.Opening

/-!
# Branches and tags

Branches are made, renamed and dropped, and one of them counts; a branch may follow a reference of a
remote. Tags are names that stay.
-/

namespace GameFixes.Depot

/-- What a new branch follows. -/
inductive Following
  /-- What the settings say. -/
  | usual
  | nothing
  /-- What it starts from, which must be a branch. -/
  | start
  /-- What the branch follows that it starts from. -/
  | inherited
  deriving DecidableEq, Repr

/-- How a branch is made. -/
structure BranchPlan where
  name : List Char
  /-- What it starts from, in words; the last commit, if nothing is said. -/
  start : Option String := none
  /-- Whether a branch with the name may be there already. -/
  isForced : Bool := false
  following : Following := .usual

namespace Workspace

/-! ### Names -/

/-- The name of a branch that is meant by a text, which may count the branches that counted before. -/
def branchText (w : Workspace) (text : String) : List Char :=
  let s := Config.octetsOf text
  let inside := if s = ['-'] then some ['1'] else
    (Text.after? "@\x7b-".toList s).bind (Text.dropLast? '\x7d')
  match inside.bind fun digits => (String.ofList digits).toNat? with
  | some (n + 1) => (w.formerBranches[n]?).getD s
  | _ => s

/-- The reference of a branch. -/
def branchRef (name : List Char) : RefName := branchStart ++ name

/-- Whether there is a branch. -/
def hasBranch (w : Workspace) (name : List Char) : Bool :=
  match Reference.read w.tree w.naming w.location (branchRef name) with
  | .absent => false
  | .broken | .points _ => true

/-- Whether a branch counts. -/
def isCounting (w : Workspace) (name : List Char) : Bool := w.branch? = some name

/-! ### Following -/

/-- The remotes that remember one of their references under a name, with that reference. -/
def remembered (w : Workspace) (ref : RefName) : List (List Char × RefName) :=
  w.remotes.flatMap fun remote =>
    ((w.fetchRules? remote).getD []).filterMap fun r =>
      match r.target with
      | some target =>
        if r.isNegated || target = [] then none
        else (RefRule.starIn? target ref).map fun star => (remote, RefRule.filled r.source star)
      | none => none

/-- What a branch follows that starts from a reference: the remote and the reference there. -/
def followedFrom? (w : Workspace) (ref : RefName) : Option (List Char × RefName) :=
  match w.remembered ref with
  | [e] => some e
  | _ :: _ => none
  | [] => if (Reference.branch? ref).isSome then some (['.'], ref) else none

/-- Lets a branch follow a reference of a remote. -/
def followRemote? (w : Workspace) (name : List Char) (remote : List Char) (ref : RefName) :
    Option Workspace :=
  let usual := (w.setting? "branch.autosetuprebase").getD "never"
  let moves := usual = "always" || (usual = "local" && remote = ['.']) ||
    (usual = "remote" && remote ≠ ['.'])
  w.putSettings? ([(.inPart "branch" name "remote", remote), (.inPart "branch" name "merge", ref)] ++
    if moves then [(.inPart "branch" name "rebase", "true".toList)] else [])

/-- The branch with what it follows, by the reference that it starts from. -/
def setFollowing? (w : Workspace) (name : List Char) (start : Option RefName)
    (following : Following) : Option Workspace :=
  let usual := (w.setting? "branch.autosetupmerge").getD "true"
  let isRemote (ref : RefName) : Bool := (Text.after? Reference.remoteStart ref).isSome
  match following, start with
  | .nothing, _ | .usual, none => some w
  | .start, none | .inherited, none => none
  | .start, some ref =>
    (w.followedFrom? ref).bind fun (remote, source) => w.followRemote? name remote source
  | .inherited, some ref =>
    match (Reference.branch? ref).bind fun b =>
        (w.branchValue? b "remote").bind fun r => (w.followed? b).map (r, ·) with
    | some (remote, source) => w.followRemote? name remote source
    | none => some w
  | .usual, some ref =>
    let isMeant := match usual with
      | "always" => true
      | "simple" => isRemote ref && (w.remembered ref).any fun e =>
          Reference.branch? e.2 = some name
      | text => isRemote ref && Config.truth? text.toList = some true
    match if isMeant then w.followedFrom? ref else none with
    | some (remote, source) => w.followRemote? name remote source
    | none => some w

/-! ### Making, renaming and dropping -/

/-- The reference that a text stands for, if it is a branch or remembers one. -/
def startRef? (w : Workspace) (text : String) : Option RefName :=
  let s := Config.octetsOf text
  let s := if s = ['@'] then Reference.head else s
  match w.refNamed? s with
  | some (ref, _) => if ref = Reference.head then (some w.headRef).filter (· ≠ Reference.head)
      else if (Reference.branch? ref).isSome || (Text.after? Reference.remoteStart ref).isSome then
        match Reference.read w.tree w.naming w.location ref with
        | .points (.reference next) => some next
        | _ => some ref
      else none
  | none => none

/-- The commit that two others come from, or the one that a text stands for. -/
def startCommit? (w : Workspace) (text : String) : Option ObjectName :=
  match Text.splitFirst? "...".toList text.toList with
  | some (a, b) => do
    let side (s : List Char) : Option ObjectName :=
      w.commitMeant? (if s = [] then "HEAD" else String.ofList s)
    match w.archive.mergeBases (← side a) (← side b) with
    | [name] => some name
    | _ => none
  | none => w.commitMeant? text

/-- Makes a branch. -/
def makeBranch? (w : Workspace) (p : BranchPlan) : Option Workspace := do
  let ref := branchRef p.name
  let isThere := w.hasBranch p.name
  let name ← w.startCommit? (p.start.getD "HEAD")
  if !Reference.isBranchName p.name || (isThere && !p.isForced) ||
      (isThere && w.isCounting p.name && w.location.top.isSome) then none
  else
    let start := match p.start with
      | some text => w.startRef? text
      | none => some w.headRef
    let said := p.start.getD (match w.branch? with
      | some b => stringOfLossy (Text.ofOctets b)
      | none => "HEAD")
    let reason := if isThere then "branch: Reset to " ++ said else "branch: Created from " ++ said
    let w ← w.setRef? ref name reason
    w.setFollowing? p.name start p.following

/-- The tree in which a file lies at another place. -/
def moveFile (t : Tree) (base source target : Place) : Tree :=
  match t.at? source with
  | some (.file content) =>
    ((Reference.eraseFile t base source).clear target).plant target (.file content)
  | _ => t

/-- Renames a branch, or makes another one like it. -/
def renameBranch? (w : Workspace) (old new : List Char) (isForced isCopy : Bool) :
    Option Workspace := do
  let isThere := w.hasBranch old
  let isTaken := w.hasBranch new && old ≠ new
  let others := (Reference.all w.tree w.naming w.location).filter fun r =>
    r ≠ branchRef old || isCopy
  let isInWay := isTaken && (!isForced || w.isCounting new)
  if !Reference.isBranchName new || isInWay || !(isThere || (!isCopy && w.isCounting old)) ||
      !Reference.fits others (branchRef new) || w.hasState "rebase-merge" then none
  else if old = new then some w
  else
    let isHead := w.isCounting old
    let words (name : List Char) : String := "refs/heads/" ++ stringOfLossy (Text.ofOctets name)
    let reason := if isCopy then "Branch: copied " ++ words old ++ " to " ++ words new
      else "Branch: renamed " ++ words old ++ " to " ++ words new
    let w ← match w.object? (branchRef old), isCopy with
      | some name, true =>
        w.setRef? (branchRef new) name reason
      | some name, false => do
        let base := w.location.shared ++ [Reference.logsName, refsName]
        let w := if isTaken then w.eraseRef (branchRef new) else w
        let w := w.withTree (moveFile w.tree base (Reference.logPlace w.location (branchRef old))
          (Reference.logPlace w.location (branchRef new)))
        let w := w.eraseRef (branchRef old)
        let w := w.withTree (Reference.putObject w.tree w.location (branchRef new) name)
        some (w.noteChange (branchRef new) name name reason)
      | none, true => none
      | none, false => some w
    let w := if isHead && !isCopy then w.attach (branchRef new) reason else w
    let oldKey : Config.Key := .inPart "branch" old "x"
    let newKey : Config.Key := .inPart "branch" new "x"
    if isCopy then
      let settings := w.settings.filterMap fun e =>
        (Text.after? ("branch.".toList ++ old ++ ['.']) e.1).bind fun last =>
          if last.contains '.' then none else e.2.map (last, ·)
      w.putSettings? (settings.map fun (last, v) => (⟨"branch".toList, some new, last⟩, v))
    else w.editSettings? fun pieces =>
      some ((Config.renameSection? oldKey newKey pieces).getD pieces)

/-- Whether all of a branch is in what it follows, or else in the last commit. -/
def isMerged (w : Workspace) (name : List Char) (tip : ObjectName) : Bool :=
  match ((w.tracked? name).bind w.object?).or w.tip? with
  | some other => w.archive.isAfter other tip
  | none => false

/-- Drops a branch, or what is remembered of one. It must be merged, unless that does not matter. -/
def dropBranch? (w : Workspace) (name : List Char) (isRemote isForced : Bool) :
    Option Workspace := do
  let ref := if isRemote then Reference.remoteStart ++ name else branchRef name
  let tip ← w.object? ref
  let isFine := isForced || ((w.archive.commitNamed? tip).isSome && w.tip?.isSome &&
    (isRemote && (w.tip?.any fun h => w.archive.isAfter h tip) || !isRemote && w.isMerged name tip))
  if !isFine || (!isRemote && w.isCounting name) then none
  else
    let w := w.eraseRef ref
    if isRemote then some w else w.dropSettings? "branch" name

/-! ### Switching -/

/-- The depot without what was waiting while a branch counted. -/
def endWaiting (w : Workspace) : Workspace :=
  w.endMerge.eraseStates ["CHERRY_PICK_HEAD", "REVERT_HEAD", "SQUASH_MSG"]

/-- What is called the thing that counts now. -/
def countingText (w : Workspace) : String :=
  match w.branch?, w.tip? with
  | some b, _ => stringOfLossy (Text.ofOctets b)
  | none, some name => name
  | none, none => "HEAD"

/-- The remembered branch with a name that is the only one, or that of the preferred remote. -/
def onlyRemembered? (w : Workspace) (name : List Char) : Option RefName :=
  let found := w.remotes.flatMap fun remote =>
    ((w.fetchRules? remote).getD []).filterMap fun r =>
      (r.image? (branchRef name)).bind fun ref => (w.object? ref).map fun _ => (remote, ref)
  let preferred := (w.setting? "checkout.defaultremote").map String.toList
  match found with
  | [(_, ref)] => some ref
  | l => (l.find? fun e => some e.1 = preferred).map (·.2)

end Workspace

end GameFixes.Depot
