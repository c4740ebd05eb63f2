import GameFixes.Depot.Branching
import GameFixes.Depot.Tool.Commits

/-!
# Commands about branches and tags

Branches and tags are made, renamed, dropped and listed.
-/

namespace GameFixes.Depot.Tool

open Work

/-! ### Branches -/

/-- The options for branches. -/
def branchRules : String :=
  "v:verbose q:quiet t:track? u:set-upstream-to= unset-upstream color? r:remotes! contains= " ++
    "no-contains= abbrev? a:all! d:delete D: m:move M: omit-empty c:copy C: l:list " ++
    "show-current create-reflog edit-description f:force merged? no-merged? column? sort= " ++
    "points-at= i:ignore-case recurse-submodules format= set-upstream with= without="

/-- What a new branch follows, by the options. -/
def followingOf? (words : Words) : Option Following :=
  match words.last? ["track"] with
  | none => some .usual
  | some ⟨_, _, true⟩ => some .nothing
  | some ⟨_, none, false⟩ | some ⟨_, some "direct", false⟩ => some .start
  | some ⟨_, some "inherit", false⟩ => some .inherited
  | some _ => none

/-- The options that only list branches. -/
def listingOptions : List String :=
  ["contains", "no-contains", "merged", "no-merged", "points-at", "with", "without"]

/-- Drops branches; all that can be dropped are. -/
def dropBranches (words : Words) (names : List String) : Work Unit := do
  need (!names.isEmpty)
  let isForced := words.has "D" || words.has "force"
  let isRemote := words.has "remotes"
  let isFine ← names.foldlM (fun isFine name => do
    let name ← ask (·.branchText name)
    let isDone ← attempt (change (·.dropBranch? name isRemote isForced))
    return isFine && isDone) true
  need isFine

/-- Renames a branch, or makes another one like it. -/
def renameBranch (words : Words) (names : List String) : Work Unit := do
  let isForced := words.has "M" || words.has "C" || words.has "force"
  let isCopy := words.has "copy" || words.has "C"
  match names with
  | [new] =>
    let old ← demand (·.branch?)
    let new ← ask (·.branchText new)
    change (·.renameBranch? old new isForced isCopy)
  | [old, new] =>
    let old ← ask (·.branchText old)
    let new ← ask (·.branchText new)
    change (·.renameBranch? old new isForced isCopy)
  | _ => failure

/-- The branch that is meant by the words behind a command, or the one that counts. -/
def branchNamed (names : List String) : Work (List Char) := do
  match names with
  | [] => demand (·.branch?)
  | [name] => ask (·.branchText name)
  | _ => failure

/-- Lists branches, as far as that can be done. -/
def listBranches (words : Words) : Work Unit := do
  let values := (listingOptions.map words.values).flatten
  need (← ask fun w => values.all fun v => (w.commitMeant? v).isSome)

/-- Does what is asked about branches. -/
def branchWith (words : Words) : Work Unit := do
  let names := words.operands
  let isListed := words.has "list" || listingOptions.any words.has
  let drops := words.has "delete" || words.has "D"
  let moves := words.has "move" || words.has "M" || words.has "copy" || words.has "C"
  let follows := words.has "set-upstream-to"
  let unfollows := words.has "unset-upstream"
  let count := [isListed, drops, words.has "move" || words.has "M",
    words.has "copy" || words.has "C", follows, unfollows, words.has "show-current",
    words.has "edit-description"].countP id
  need (count ≤ 1)
  if drops then dropBranches words names
  else if moves then renameBranch words names
  else if follows then
    let name ← branchNamed names
    let start ← given (words.value? "set-upstream-to")
    need (← ask (·.hasBranch name))
    let ref ← demand (·.startRef? start)
    change (·.setFollowing? name (some ref) .start)
  else if unfollows then
    let name ← branchNamed names
    need (← ask fun w => (w.followed? name).isSome)
    change (·.editSettings? fun pieces => do
      let pieces ← Config.unset? true (.inPart "branch" name "merge") pieces
      return (Config.unset? true (.inPart "branch" name "remote") pieces).getD pieces)
  else if words.has "show-current" then pure ()
  else if words.has "edit-description" then need (leavesText (← ask editorOf))
  else if isListed || names.isEmpty then listBranches words
  else
    let following ← given (followingOf? words)
    need (!words.has "all" && !words.has "remotes" && names.length ≤ 2 &&
      !words.has "set-upstream")
    let name ← given names.head?
    let name ← ask (·.branchText name)
    change (·.makeBranch? ⟨name, names[1]?, words.has "force", following⟩)

/-- Does what is asked about branches. -/
def branch : Command := command false branchRules branchWith

/-! ### Tags -/

/-- The options for tags. -/
def tagRules : String :=
  "l:list! n:? d:delete! v:verify! a:annotate m:message=! F:file= e:edit s:sign cleanup= " ++
    "u:local-user= f:force create-reflog column? contains? no-contains? merged? no-merged? " ++
    "omit-empty sort= points-at? format= color? i:ignore-case with? without?"

/-- The message of a tag. -/
def tagMessage (words : Words) : Work (Option String) := do
  match words.values "message", words.value? "file" with
  | [], none => return none
  | [], some "-" => return some ""
  | [], some name => return some (stringOfLossy (← demand fun w => w.site.read? name))
  | messages, none => return some (messageText messages)
  | _ :: _, some _ => failure

/-- Makes a tag. -/
def makeTag (words : Words) (name : String) (subject : String) : Work Unit := do
  let message ← tagMessage words
  let object ← demand (·.revision? subject)
  let ref := Reference.tagStart ++ Config.octetsOf name
  need (Reference.isName ref && name.toList.head? ≠ some '-')
  need (words.has "force" || (← ask (·.object? ref)).isNone)
  let how ← match words.value? "cleanup" with
    | none | some "strip" => pure Message.Cleaning.remarks
    | some "whitespace" => pure .blanks
    | some "verbatim" => pure .nothing
    | some _ => failure
  let signs := words.has "sign" || words.has "local-user" ||
    (!words.hasOff "sign" && (← ask (·.isOn "tag.gpgsign")) && !words.has "annotate")
  need (!signs)
  need (← ask (·.archive.has object))
  if words.has "annotate" || message.isSome then
    let w ← ask id
    let isEdited := message.isNone || words.has "edit"
    need (!isEdited || leavesText (editorOf w))
    let text := Message.clean how w.remarkMark (message.getD "")
    need (message.isSome || text ≠ "")
    let tagger ← demand (·.signature? "committer")
    let word ← demand fun w => (w.archive.get? object).map Object.word
    let (w, tag) := w.putObject (.tag ⟨object, word, name, tagger, text⟩)
    set w
    change (·.setRef? ref tag "tag")
  else change (·.setRef? ref object "tag")

/-- Does what is asked about tags. -/
def tag : Command :=
  command false tagRules fun words => do
    let isListed := words.has "list" || words.has "n" ||
      ["contains", "no-contains", "merged", "no-merged", "points-at", "with", "without"].any
        words.has
    need ([words.has "delete", words.has "verify", words.has "list"].countP id ≤ 1)
    if words.has "delete" then
      let isFine ← words.operands.foldlM (fun isFine name => do
        let ref := Reference.tagStart ++ Config.octetsOf name
        if (← ask (·.object? ref)).isSome then
          alter (·.eraseRef ref)
          return isFine
        else return false) true
      need isFine
    else if words.has "verify" then need words.operands.isEmpty
    else
      match isListed, words.operands with
      | true, _ | false, [] => pure ()
      | false, [name] => makeTag words name "HEAD"
      | false, [name, subject] => makeTag words name subject
      | false, _ => failure

end GameFixes.Depot.Tool
