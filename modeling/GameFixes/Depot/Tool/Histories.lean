import GameFixes.Depot.Pull
import GameFixes.Depot.Tool.Switches

/-!
# Commands about histories

Histories are merged, commits are made again or taken back, branches are moved, and changes are put on
the shelf.
-/

namespace GameFixes.Depot.Tool

open Work

/-! ### Strategies -/

/-- The side that is favored in conflicts, by the words about it; nothing, if one is not known. -/
def favorOf? (words : List String) : Option (Option TextMerge.Favor) :=
  let known := ["ignore-space-change", "ignore-all-space", "ignore-space-at-eol",
    "ignore-cr-at-eol", "renormalize", "no-renormalize", "no-renames", "find-renames", "patience",
    "histogram", "diff-algorithm=histogram", "diff-algorithm=patience", "diff-algorithm=minimal",
    "diff-algorithm=myers", "subtree"]
  words.foldlM (fun favor word =>
    if word = "ours" then some (some .ours)
    else if word = "theirs" then some (some .theirs)
    else if known.contains word || (Text.after? "find-renames=".toList word.toList).isSome ||
        (Text.after? "rename-threshold=".toList word.toList).isSome ||
        (Text.after? "subtree=".toList word.toList).isSome then some favor
    else none) none

/-- Whether nothing of the others is taken, by the names of strategies; nothing, if one is not
known. -/
def keepsOursBy? (names : List String) : Option Bool :=
  let known := ["ort", "recursive", "resolve", "octopus", "subtree", "ours"]
  if names.all known.contains then some (names.head? = some "ours") else none

/-! ### Merging -/

/-- The options for merging. -/
def mergeRules : String :=
  "n: stat summary log? squash commit e:edit cleanup= ff ff-only! rerere-autoupdate " ++
    "verify-signatures s:strategy= X:strategy-option= m:message= F:file=! into-name= " ++
    "v:verbose q:quiet abort quit continue allow-unrelated-histories progress S:gpg-sign? " ++
    "autostash overwrite-ignore signoff no-verify"

/-- Whether the branch may just go forward, if an option says it. -/
def forwardOf? (words : Words) : Option Forward :=
  match words.last? ["ff", "ff-only"] with
  | some ⟨"ff-only", _, _⟩ => some .only
  | some ⟨_, _, true⟩ => some .never
  | some ⟨_, _, false⟩ => some .allowed
  | none => none

/-- What people call something that is merged. -/
def mergedName (w : Workspace) (text : String) : String :=
  let isTag := (w.object? (Reference.tagStart ++ Config.octetsOf text)).isSome
  if w.hasBranch (Config.octetsOf text) then "branch '" ++ text ++ "'"
  else if (w.object? (Reference.remoteStart ++ Config.octetsOf text)).isSome then
    "remote-tracking branch '" ++ text ++ "'"
  else if isTag then "tag '" ++ text ++ "'"
  else "commit '" ++ text ++ "'"

/-- What is to be merged by what is given: what was fetched, or commits. -/
def mergeHeadsGiven (operands : List String) : Work (List (String × ObjectName) × List String) := do
  let w ← ask id
  match operands with
  | ["FETCH_HEAD"] =>
    let l := w.fetchedHeads
    let heads ← given (l.mapM fun e => (w.archive.commitNamed? e.1).map fun n => (n, n))
    need (!heads.isEmpty)
    return (heads, l.map (·.2))
  | l =>
    let heads ← given (l.mapM fun text =>
      let text := if text = "-" then "@\x7b-1\x7d" else text
      (w.commitMeant? text).map (text, ·))
    return (heads, l.map (mergedName w))

/-- Merges commits. -/
def mergeWith (words : Words) : Work Unit := do
  let w ← ask id
  let favor ← given (favorOf? (words.values "strategy-option"))
  let keepsOurs ← given (keepsOursBy? (words.values "strategy"))
  let forward := (forwardOf? words).getD w.mergeForward
  let squashes := words.has "squash"
  need (!(squashes && forward = .never && (forwardOf? words) = some .never))
  need (!(squashes && words.has "commit"))
  need w.isSettled
  let operands ← match words.operands with
    | [] => do
      need (!Config.isOff w.settings "merge.defaulttoupstream")
      let b ← given w.branch?
      let ref ← given (w.tracked? b)
      pure [stringOfLossy (Text.ofOctets ref)]
    | l => pure l
  let (heads, names) ← mergeHeadsGiven operands
  let isEdited := words.has "edit"
  let how ← given (cleaningOf? isEdited ((words.value? "cleanup").or (w.setting? "commit.cleanup")))
  let message ← match words.values "message", words.value? "file" with
    | [], none => pure (mergeTitle w.branch? names)
    | [], some name => do
      pure (stringOfLossy (← demand fun w => w.site.read? name))
    | l, _ => pure (messageText l)
  let message ← if words.has "signoff" then do
      let who ← demand (·.signature? "committer")
      pure (Message.addNote (Message.signMark ++ who.name ++ " <" ++ who.email ++ ">") message)
    else pure message
  need (!isEdited || leavesText (editorOf w))
  need (!words.has "verify-signatures")
  let isSigned := (words.last? ["gpg-sign"]).map (!·.isOff)
  let shelves := words.has "autostash" ||
    (!words.hasOff "autostash" && w.isOn "merge.autostash")
  let request : MergeRequest :=
    { heads := heads, forward := if squashes && forward = .never then .allowed else forward
      commits := !words.hasOff "commit", squashes := squashes, favor := favor
      keepsOurs := keepsOurs, allowsUnrelated := words.has "allow-unrelated-histories"
      message := message, cleaning := how
      reason := "merge " ++ " ".intercalate operands
      isQuiet := words.has "quiet"
      hasSummary := !words.has "n" && !words.hasOff "stat" &&
        !Config.isOff w.settings "merge.stat" }
  need (isSigned ≠ some true || (w.tip?.any fun t => heads.all fun e => w.archive.isAfter e.2 t))
  if shelves && w.tip?.isSome && !w.isClean then
    shelve {}
    merge request
    unshelveAndDrop none false
  else merge request

/-- Merges commits, or ends a merge that waits. -/
def mergeCommand : Command :=
  command true mergeRules fun words =>
    if words.has "abort" then do
      need words.operands.isEmpty
      abandonMerge
    else if words.has "quit" then alter Workspace.endMerge
    else if words.has "continue" then do
      need (← ask (·.hasState "MERGE_HEAD"))
      need (leavesText (← ask editorOf))
      whole (commitWith {})
    else mergeWith words

/-! ### Making again -/

/-- The commits that words about a range mean, the first one first. -/
def commitsGiven (operands : List String) : Work (List ObjectName) := do
  let w ← ask id
  let a := w.archive
  let commit (s : List Char) : Option ObjectName :=
    w.commitMeant? (if s = [] then "HEAD" else String.ofList s)
  let isRange := operands.any fun text =>
    (Text.splitFirst? "..".toList text.toList).isSome || text.toList.head? = some '^'
  if !isRange then
    given (operands.mapM fun text => w.commitMeant? (if text = "-" then "@\x7b-1\x7d" else text))
  else
    let sides ← given (operands.mapM fun text =>
      match text.toList, Text.splitFirst? "..".toList text.toList with
      | '^' :: s, _ => (commit s).map fun n => ([], [n])
      | _, some (x, '.' :: y) => do
        let (x, y) := (← commit x, ← commit y)
        some ([x, y], a.mergeBases x y)
      | _, some (x, y) => do some ([← commit y], [← commit x])
      | s, none => (commit s).map fun n => ([n], []))
    let behind := a.ancestors (sides.flatMap (·.2))
    let l := (a.ancestors (sides.flatMap (·.1))).filter fun n => !behind.contains n
    let steps (n : ObjectName) : Nat := (a.ancestors [n]).length
    return l.mergeSort fun x y => steps x ≤ steps y

/-- The options for making commits again. -/
def replayRules : String :=
  "quit! continue! abort! skip! cleanup= n:no-commit e:edit s:signoff m:mainline= " ++
    "rerere-autoupdate strategy= X:strategy-option= S:gpg-sign? reference x: ff allow-empty " ++
    "allow-empty-message keep-redundant-commits empty="

/-- Ends what waits, as the options say; otherwise does other work. -/
def orEnding (words : Words) (name : String) (work : Work Unit) : Work Unit := do
  if words.has "abort" then abandonReplay
  else if words.has "quit" then
    alter (·.eraseStates ["sequencer", "CHERRY_PICK_HEAD", "REVERT_HEAD"])
  else if words.has "skip" then abandonReplay
  else if words.has "continue" then
    need (← ask fun w => w.hasState "CHERRY_PICK_HEAD" || w.hasState "REVERT_HEAD")
    need (leavesText (← ask editorOf))
    need (name ≠ "")
    whole (commitWith {})
    alter (·.eraseStates ["sequencer"])
  else work

/-- Makes commits again, or takes them back. -/
def replayCommand (isUndone : Bool) : Command :=
  command true replayRules fun words => orEnding words "commit" do
    need (!words.operands.isEmpty)
    let names ← commitsGiven words.operands
    let favor ← given (favorOf? (words.values "strategy-option"))
    let mainline ← match words.value? "mainline" with
      | some text => do
        let n ← given text.toNat?
        need (n ≠ 0)
        pure (some n)
      | none => pure none
    let commits := !words.has "no-commit"
    need (!(words.has "ff" && (words.has "signoff" || words.has "no-commit" || words.has "x" ||
      words.has "edit")))
    need (!words.has "edit" || leavesText (← ask editorOf))
    let notes ← if words.has "signoff" then do
        let who ← demand (·.signature? "committer")
        pure [Message.signMark ++ who.name ++ " <" ++ who.email ++ ">"]
      else pure []
    let keepsEmpty := words.has "keep-redundant-commits"
    need (!words.has "gpg-sign")
    replayAll
      { isUndone := isUndone, mainline := mainline, commits := commits
        mayForward := words.has "ff"
        empty := if words.has "allow-empty" || keepsEmpty then .kept else .refused
        redundant := if keepsEmpty then .kept else .refused
        favor := favor, notes := notes, saysSource := words.has "x"
        mark := if isUndone then "REVERT_HEAD" else "CHERRY_PICK_HEAD"
        reason := if isUndone then "revert" else "cherry-pick" }
      (if isUndone then names.reverse else names)

/-! ### Moving branches -/

/-- The options for moving branches. -/
def rebaseRules : String :=
  "onto= keep-base no-verify q:quiet v:verbose n:no-stat signoff " ++
    "committer-date-is-author-date reset-author-date C:= ignore-whitespace whitespace= " ++
    "f:force-rebase no-ff continue! skip! abort! quit! edit-todo! show-current-patch! apply! " ++
    "m:merge! i:interactive! rerere-autoupdate empty=! autosquash update-refs S:gpg-sign? " ++
    "autostash x:exec= r:rebase-merges? fork-point s:strategy= X:strategy-option= root " ++
    "reschedule-failed-exec reapply-cherry-picks ignore-date keep-empty allow-empty-message"

/-- Moves the branch that counts, or another one that is switched to first. -/
def rebaseWith (words : Words) : Work Unit := do
  let favor ← given (favorOf? (words.values "strategy-option"))
  need (!words.has "root" && !words.has "interactive" && !words.has "exec" && !words.has "gpg-sign")
  let w ← ask id
  let upstreamText ← match words.operands with
    | [] => do
      let b ← given w.branch?
      pure (stringOfLossy (Text.ofOctets (← given (w.tracked? b))))
    | text :: _ => pure (if text = "-" then "@\x7b-1\x7d" else text)
  need (words.operands.length ≤ 2)
  let upstream ← demand (·.commitMeant? upstreamText)
  let onto ← match words.value? "onto" with
    | some text => demand (·.startCommit? text)
    | none => pure upstream
  let shelves := words.has "autostash" || (!words.hasOff "autostash" && w.isOn "rebase.autostash")
  let isDirty := !w.isClean
  need (!isDirty || shelves)
  if isDirty then shelve {}
  match words.operands[1]? with
  | some name =>
    let commit ← demand (·.commitMeant? name)
    switch { target := if w.hasBranch (w.branchText name) then .branch (w.branchText name) else .commit
             commit := some commit, text := name }
  | none => pure ()
  let tip? ← ask (·.tip?)
  let usesFork := !words.hasOff "fork-point" && (words.has "fork-point" || words.operands.isEmpty)
  let fork? ← ask fun w => if usesFork then
      (w.startRef? upstreamText).bind fun ref => tip?.bind (w.forkPoint? ref)
    else none
  rebase ⟨fork?.getD upstream, onto, words.has "force-rebase" || words.has "no-ff",
    words.has "quiet", favor⟩
  if isDirty then unshelveAndDrop none false

/-- Moves a branch, or ends a move that waits. -/
def rebaseCommand : Command :=
  command true rebaseRules fun words =>
    if words.has "abort" then abandonRebase
    else if words.has "quit" then do
      need (← ask (·.hasState movingName))
      alter (·.eraseStates [movingName, "REBASE_HEAD"])
    else if words.has "continue" || words.has "skip" || words.has "edit-todo" then failure
    else rebaseWith words

/-! ### The shelf -/

/-- The options for putting something on the shelf. -/
def shelfRules : String :=
  "k:keep-index S:staged p:patch q:quiet u:include-untracked a:all m:message=" ++ pathRules

/-- Puts changes on the shelf. -/
def shelveWith (words : Words) (message : Option String) (paths : List String) : Work Unit := do
  need (!words.has "patch" && !words.has "staged")
  let specs ← specsGiven words paths
  shelve { specs := specs, message := message, keepsStage := words.has "keep-index"
           withNew := words.has "include-untracked", withIgnored := words.has "all" }

/-- The options of a command about something on the shelf, and how that is called. -/
def shelvedWords (rules : String) (args : List String) : Work (Words × Option String) := do
  let words ← given (words? rules args)
  need (words.operands.length ≤ 1)
  return (words, words.operands.head?)

/-- Does what is asked about the shelf. -/
def shelf : Command := fun s env args =>
  onDepot true s env do
    match args with
    | "pop" :: args => do
      let (words, text) ← shelvedWords "q:quiet index" args
      unshelveAndDrop text (words.has "index")
    | "apply" :: args => do
      let (words, text) ← shelvedWords "q:quiet index" args
      unshelve text (words.has "index")
    | "drop" :: args => do
      let (_, text) ← shelvedWords "q:quiet" args
      need (← ask fun w => (w.shelved? text).isSome)
      let position ← given (Workspace.shelfPosition? text)
      change (·.dropShelved? position)
    | "clear" :: args => do
      need args.isEmpty
      alter fun w => if (w.object? Shelf.ref).isSome then w.eraseRef Shelf.ref else w
    | "list" :: _ => pure ()
    | "show" :: args => do
      let (_, text) ← shelvedWords
        "u:include-untracked only-untracked! p: stat name-only name-status numstat patch" args
      need (← ask fun w => (w.shelved? text).isSome)
    | "branch" :: name :: rest => do
      need (rest.length ≤ 1)
      let shelved ← demand (·.shelved? rest.head?)
      let c ← demand (·.archive.commit? shelved)
      switch { target := .branch (Config.octetsOf name), commit := c.parents.head?, text := name
               made := some ⟨Config.octetsOf name, c.parents.head?, false, .nothing⟩ }
      unshelve rest.head? true
      match Workspace.shelfPosition? rest.head? with
      | some position => change (·.dropShelved? position)
      | none => pure ()
    | "create" :: _ => pure ()
    | "save" :: args => do
      let words ← given (leadingWords? shelfRules args)
      let text := " ".intercalate words.operands
      shelveWith words (if text = "" then words.value? "message" else some text) []
    | "push" :: args => do
      let words ← given (words? shelfRules args)
      shelveWith words (words.value? "message") words.operands
    | args => do
      -- Without a word about it, changes are put on the shelf, and paths need their two hyphens.
      let words ← given (words? shelfRules args)
      need (words.operands.isEmpty || words.marked = some 0 || words.has "patch")
      shelveWith words (words.value? "message") words.operands

end GameFixes.Depot.Tool
