import GameFixes.Depot.Merging
import GameFixes.Depot.Tool.Command

/-!
# Committing by command

The command that makes a commit: where its message is from, what it holds, and when it is refused.
-/

namespace GameFixes.Depot.Tool

open Work

/-! ### Editors -/

/-- The program that people write messages with. -/
def editorOf (w : Workspace) : String :=
  (((w.env.get? "GIT_EDITOR").or (w.setting? "core.editor")).or (w.env.get? "VISUAL")).or
    (w.env.get? "EDITOR") |>.getD "vi"

/-- Whether an editor leaves a text as it is; nobody is there to write another one. -/
def leavesText (editor : String) : Bool :=
  [":", "true", "/bin/true", "/usr/bin/true", "cat"].contains editor

/-- What is taken away from messages, by a word; `isEdited` says that an editor was used. -/
def cleaningOf? (isEdited : Bool) (word : Option String) : Option Message.Cleaning :=
  match word with
  | none | some "default" => some (if isEdited then .remarks else .blanks)
  | some "verbatim" => some .nothing
  | some "whitespace" => some .blanks
  | some "strip" => some .remarks
  | some "scissors" => some (if isEdited then .scissors else .blanks)
  | some _ => none

/-- The text that several given messages make up. -/
def messageText (messages : List String) : String :=
  "\n".intercalate (messages.map fun m => Workspace.endedText m)

/-- Whether a word says which files that are not staged are shown. -/
def isUntrackedWord (word : String) : Bool :=
  ["all", "normal", "no"].contains word || (Config.truth? word.toList).isSome

/-! ### Where a message is from -/

/-- The options for commits. -/
def commitRules : String :=
  ("q:quiet v:verbose F:file= author= date= m:message= c:reedit-message= C:reuse-message= " ++
    "fixup= squash= reset-author trailer=! s:signoff t:template= e:edit cleanup= status " ++
    "S:gpg-sign? a:all i:include interactive p:patch o:only n:no-verify dry-run short branch " ++
    "ahead-behind porcelain long z:null amend no-post-rewrite u:untracked-files? allow-empty " ++
    "allow-empty-message") ++ pathRules

/-- What a commit starts from. -/
structure Beginning where
  /-- The message that is given, if there is one. -/
  given : Option String
  /-- The commit whose message and author are used again. -/
  reused : Option ObjectName
  /-- What stands in front of the subject of another commit. -/
  mended : Option (String × ObjectName)
  /-- Whether somebody is to write the message. -/
  isEdited : Bool
  /-- Whether only the message changes. -/
  isReword : Bool

/-- The commit that a text stands for. -/
def commitGiven (text : String) : Work ObjectName := demand (·.commitMeant? text)

/-- The mark in front of the subject and the commit that are meant by the word about mending. -/
def mendedBy (text : String) : Work (String × ObjectName × Bool) := do
  let s := text.toList
  match Text.after? "amend:".toList s, Text.after? "reword:".toList s with
  | some rest, _ => return ("amend! ", ← commitGiven (String.ofList rest), false)
  | none, some rest => return ("amend! ", ← commitGiven (String.ofList rest), true)
  | none, none => return ("fixup! ", ← commitGiven text, false)

/-- What a commit starts from, by the options. -/
def beginningOf (words : Words) (isAmending : Bool) : Work Beginning := do
  let messages := words.values "message"
  let said := words.has "message"
  let file? := words.value? "file"
  let reused? := words.value? "reuse-message"
  let reedited? := words.value? "reedit-message"
  let fixup? := words.value? "fixup"
  let squash? := words.value? "squash"
  let count (l : List Bool) : Nat := l.countP id
  need (count [reused?.isSome, reedited?.isSome, file?.isSome, fixup?.isSome] ≤ 1)
  need (count [said, reedited?.isSome, reused?.isSome, file?.isSome] ≤ 1)
  need (!(fixup?.isSome && squash?.isSome))
  let mended ← match fixup? with
    | some text => do pure (some (← mendedBy text))
    | none => pure none
  let isPlainFixup := mended.any (·.1 = "fixup! ")
  need (!(mended.isSome && !isPlainFixup && said))
  let text ← match file? with
    | some name =>
      if name = "-" then pure (some "") else do
        pure (some (stringOfLossy (← demand fun w => w.site.read? name)))
    | none => pure (if said then some (messageText messages) else none)
  let reusedText? := (reused?.or reedited?).or
    (if isAmending && fixup?.isNone then some "HEAD" else none)
  let reused ← match reusedText? with
    | some name => do pure (some (← commitGiven name))
    | none => pure none
  let isEdited := !(said || file?.isSome || reused?.isSome || isPlainFixup)
  let isEdited := match words.last? ["edit"] with
    | some g => !g.isOff
    | none => isEdited
  return ⟨text, reused, mended.map fun e => (e.1, e.2.1), isEdited, mended.any (·.2.2)⟩

/-- The message with which a commit starts. -/
def firstMessage (words : Words) (b : Beginning) : Work String := do
  let w ← ask id
  let squashed ← match words.value? "squash" with
    | some text => do
      let c ← demand (·.archive.commit? (← commitGiven text))
      pure ("squash! " ++ Message.subject c.message ++ "\n\n")
    | none => pure ""
  let reused := b.reused.bind w.archive.commit?
  match b.mended, b.given, reused with
  | some (mark, name), given, _ =>
    let c ← demand (·.archive.commit? name)
    let subject := Message.subject c.message
    if mark = "fixup! " then return mark ++ subject ++ "\n\n" ++ given.getD ""
    else return mark ++ subject ++ "\n\n" ++ c.message
  | none, some text, _ => return squashed ++ text
  | none, none, some c => return squashed ++ c.message
  | none, none, none =>
    match w.stateText? "MERGE_MSG", w.stateText? "SQUASH_MSG" with
    | some text, squash => return squashed ++ squash.getD "" ++ text
    | none, some text => return squashed ++ text
    | none, none =>
      match (words.value? "template").or (w.setting? "commit.template") with
      | some name =>
        let path := Config.expanded w.env (bytesOf name)
        let content ← demand fun w =>
          (contentAt? w.tree w.top path).or (contentAt? w.tree w.site.cwd path)
        return squashed ++ stringOfLossy content
      | none => return squashed

/-- The text of the template, if a commit starts with it. -/
def templateText (words : Words) (b : Beginning) (w : Workspace) : Option String :=
  if b.given.isSome || b.reused.isSome || b.mended.isSome then none
  else ((words.value? "template").or (w.setting? "commit.template")).bind fun name =>
    let path := Config.expanded w.env (bytesOf name)
    ((contentAt? w.tree w.top path).or (contentAt? w.tree w.site.cwd path)).map stringOfLossy

/-! ### What a commit holds -/

/-- Stages what the paths of a commit stand for, and gives the stage that is committed. -/
def stageForCommit (words : Words) (specs : List Pathspec) : Work Stage := do
  if words.has "all" || (words.has "include" && !specs.isEmpty) then
    change (·.stageChanges? (Pathspec.admits specs))
    need (← ask fun w => w.stage.conflicts.isEmpty)
    ask (·.stage)
  else if specs.isEmpty then
    need (← ask fun w => w.canStage && w.stage.conflicts.isEmpty)
    ask (·.stage)
  else
    need (← ask fun w => w.canStage && !w.isWaiting)
    let places ← demand (·.placesMeant? specs)
    change (·.stageAt? places)
    ask fun w => Workspace.stageOnly w.headSnapshot w.stage places.contains

/-! ### Commits -/

/-- The commits that a commit comes after, and what is said about it. -/
def parentsOf (isAmending : Bool) : Work (List ObjectName × String) := do
  let w ← ask id
  match w.tip?, isAmending with
  | none, _ => return ([], "commit (initial)")
  | some tip, true => return (((w.archive.commit? tip).map (·.parents)).getD [], "commit (amend)")
  | some tip, false =>
    match w.mergeHeads with
    | [] => return ([tip], if w.hasState "CHERRY_PICK_HEAD" then "commit (cherry-pick)" else "commit")
    | heads =>
      let all := tip :: heads
      let mode := (w.stateText? "MERGE_MODE").getD ""
      return (if mode = "no-ff" then all else w.archive.independent all, "commit (merge)")

/-- Whether a message starts with the same text as a template and has only more signatures. -/
def isUntouched (how : Message.Cleaning) (mark : Char) (template message : String) : Bool :=
  let template := Message.clean how mark template
  match Text.after? template.toList message.toList with
  | some rest => Message.isEmpty how (String.ofList rest)
  | none => false

/-- Makes a commit. -/
def commitWith (words : Words) : Work Unit := do
  need ((words.values "untracked-files").all isUntrackedWord)
  let isAmending := words.has "amend"
  let w ← ask id
  need (w.canRead && !(isAmending && (w.tip?.isNone || w.isWaiting)))
  let b ← beginningOf words isAmending
  need (!(words.has "author" && words.has "reset-author"))
  need (!words.has "reset-author" || b.reused.isSome || w.hasState "CHERRY_PICK_HEAD")
  need (!words.has "interactive" && !words.has "patch")
  let ways := ["include", "only", "all"].filter words.has
  need (ways.length ≤ 1 && !(b.isReword && !ways.isEmpty))
  let how ← given (cleaningOf? b.isEdited ((words.value? "cleanup").or (w.setting? "commit.cleanup")))
  let specs ← specsGiven words words.operands
  need (!(words.has "all" && !specs.isEmpty) && !(b.isReword && !specs.isEmpty))
  let mayBeEmpty := words.has "allow-empty" || b.isReword ||
    b.mended.any (·.1 = "amend! ")
  need (!specs.isEmpty || !(words.has "include" ||
    (words.has "only" && !mayBeEmpty && !isAmending)))
  let stage ← if words.has "only" && specs.isEmpty || b.isReword then
      ask fun w => Stage.ofSnapshot w.headSnapshot
    else stageForCommit words specs
  let picked? := if w.hasState "CHERRY_PICK_HEAD" then w.commitMeant? "CHERRY_PICK_HEAD" else none
  let base := if words.has "reset-author" then none
    else ((b.reused.or picked?).bind w.archive.commit?).map (·.author)
  let author ← demand (·.authorBy? ⟨words.value? "author", words.value? "date", base⟩)
  let message ← firstMessage words b
  let message ← if words.has "signoff" then do
      let who ← demand (·.signature? "committer")
      pure (Message.addNote (Message.signMark ++ who.name ++ " <" ++ who.email ++ ">") message)
    else pure message
  let committer? ← ask (·.signature? "committer")
  need committer?.isSome
  let (parents, reason) ← parentsOf isAmending
  let isMerge := 1 < parents.length
  let before := ((parents.head?).bind w.archive.snapshotOf?).getD []
  let snapshot := stage.snapshot
  let changes := !snapshot.same before
  need (changes || mayBeEmpty || isMerge || words.has "amend" && isMerge ||
    !(w.mergeHeads.isEmpty))
  let message := (words.values "trailer").foldl
    (fun m text => Message.addNote (Message.noteOf text) m) message
  need (!b.isEdited || leavesText (editorOf w))
  alter fun w => w.putKept w.messagePlace (.file (bytesOf message))
  let mark := w.remarkMark
  let message := Message.clean how mark message
  let mayBeSilent := words.has "allow-empty-message"
  need (mayBeSilent || !Message.isEmpty how message)
  need (mayBeSilent || (templateText words b w).all fun t => !isUntouched how mark t message)
  let isSigned := match words.last? ["gpg-sign"] with
    | some g => !g.isOff
    | none => !w.canSign
  need (!isSigned)
  change (·.record? ⟨snapshot, parents, author, message⟩ reason)
  alter (·.eraseStates Workspace.mergeStates)

/-- What there is to commit is only looked at. -/
def looksOnly (words : Words) : Bool :=
  words.has "dry-run" || words.has "short" || words.has "porcelain" || words.has "long" ||
    words.has "null"

/-- Whether there is something to commit. -/
def hasToCommit (words : Words) : Work Unit := do
  let specs ← specsGiven words words.operands
  need (!(words.has "all" && !specs.isEmpty))
  let stage ← stageForCommit words specs
  let w ← ask id
  need (words.has "amend" || !stage.snapshot.same w.headSnapshot || !w.mergeHeads.isEmpty)

/-- Makes a commit, or says whether there is something to commit. -/
def commit : Command :=
  command true commitRules fun words =>
    if looksOnly words then do
      let before ← get
      let isDone ← attempt (hasToCommit words)
      set before
      need isDone
    else whole (commitWith words)

end GameFixes.Depot.Tool
