import GameFixes.Depot.Switching
import GameFixes.Depot.Tool.Branches

/-!
# Commands that switch and restore

Another branch or commit comes to count, files are restored from the stage or from a commit, and the
last commit is set back. A word may mean a commit or a path; it must be clear which.
-/

namespace GameFixes.Depot.Tool

open Work

/-! ### Words that mean commits or paths -/

/-- Whether something stands where a path leads. -/
def isPathThere (w : Workspace) (path : String) : Bool :=
  match w.site.locate false (bytesOf path) with
  | .ok (.place p) => (w.tree.at? p).isSome
  | _ => false

/-- Whether a word may be a path: something stands there, or it is a pattern. -/
def mayBePath (w : Workspace) (path : String) : Bool :=
  isPathThere w path || path.toList.any Glob.isSpecial || path.toList.head? = some ':'

/-- What the operands of a command mean: a commit or a tree in front, if there is one, and paths. -/
structure Meaning where
  revision : Option String
  paths : List String
  /-- Whether two hyphens stand in front of the paths. -/
  isMarked : Bool

/-- What operands mean of which the first one may be a commit or a tree. -/
def meaningOf (words : Words) (isRevision : String → Bool) : Work Meaning := do
  let w ← ask id
  match words.marked, words.operands with
  | some 0, paths => return ⟨none, paths, true⟩
  | some 1, first :: paths =>
    need (isRevision first)
    return ⟨some first, paths, true⟩
  | some _, _ => failure
  | none, [] => return ⟨none, [], false⟩
  | none, first :: paths =>
    if isRevision first then
      need (paths.isEmpty || !isPathThere w first)
      return ⟨some first, paths, false⟩
    else return ⟨none, first :: paths, false⟩

/-! ### Restoring -/

/-- The side of a conflict that is wanted. -/
def sideOf (words : Words) : Option (Conflict → Option Item) :=
  match words.last? ["ours", "theirs"] with
  | some ⟨"ours", _, false⟩ => some (·.ours)
  | some ⟨"theirs", _, false⟩ => some (·.theirs)
  | _ => none

/-- Restores files; every path must stand for something. -/
def restoreFiles (words : Words) (specs : List Pathspec) (source : Option Snapshot)
    (inStage inDir dropsRest : Bool) : Work Unit := do
  let w ← ask id
  let side := sideOf words
  need (!specs.isEmpty)
  let stage := w.stage
  let isFit (s : Pathspec) : Bool :=
    let inSource := match source with
      | some source => source.any fun (p, item) => s.covers p item.kind.isDir
      | none => false
    s.manner.isExcluding || inSource || ((source.isNone || dropsRest) && w.isStaged s)
  need (specs.all isFit)
  let isForced := words.has "force" || words.has "ignore-unmerged"
  let torn := stage.conflicts.any fun e => Pathspec.anyCovers specs e.1 false
  need (source.isSome || !torn || isForced || side.isSome)
  need (side.isNone || (source.isNone && !inStage))
  let isMeant := Pathspec.anyCovers specs
  change (·.restore? { isMeant := isMeant, source := source, inStage := inStage, inDir := inDir
                       dropsRest := dropsRest, passesConflicts := isForced, side := side })

/-- The snapshot of a commit or a tree that a text stands for. -/
def treeGiven (text : String) : Work Snapshot := do
  demand fun w => match w.startCommit? text with
    | some name => w.archive.snapshotOf? name
    | none => (w.revision? text).bind w.archive.snapshotOf?

/-- The options for restoring. -/
def restoreRules : String :=
  ("s:source= S:staged W:worktree ignore-unmerged overlay q:quiet recurse-submodules? " ++
    "progress m:merge conflict= 2:ours! 3:theirs! p:patch ignore-skip-worktree-bits") ++ pathRules

/-- Restores files. -/
def restore : Command :=
  command true restoreRules fun words => do
    let inStage := words.has "staged"
    let inDir := words.has "worktree" || (!inStage && !words.hasOff "worktree")
    need (inStage || inDir)
    let source? := (words.value? "source").or (if inStage then some "HEAD" else none)
    let source ← match source? with
      | some text => do pure (some (← treeGiven text))
      | none => pure none
    let specs ← specsGiven words words.operands
    need (!words.has "patch")
    restoreFiles words specs source inStage inDir (!words.has "overlay")

/-! ### Switching -/

/-- The options that checking out and switching have in common. -/
def switchingRules : String :=
  " guess q:quiet recurse-submodules? progress m:merge conflict= d:detach t:track? f:force " ++
    "orphan= overwrite-ignore ignore-other-worktrees"

/-- What is to be switched to. -/
structure Target where
  /-- What it is called; nothing, if it is what counts already. -/
  text : Option String
  /-- The branch that is to be made, and whether it may be there. -/
  made : Option (List Char × Bool)
  following : Following

/-- The branch behind the name of a remote, which is made if nothing else is said. -/
def trackedName (text : String) : Option (List Char) :=
  let s := text.toList
  let s := Text.withoutStart "remotes/".toList (Text.withoutStart refStart s)
  match s.dropWhile (· ≠ '/') with
  | _ :: name => if name = [] then none else some name
  | [] => none

/-- Whether work waits that a branch is not left with. -/
def isBusy (w : Workspace) : Bool :=
  w.isWaiting || w.hasState "REVERT_HEAD" || w.hasState "rebase-merge" || w.hasState "rebase-apply"

/-- Switches. -/
def switchTo (words : Words) (t : Target) (isForced : Bool) : Work Unit := do
  let w ← ask id
  let losesIgnored := !words.hasOff "overwrite-ignore"
  let detaches := words.has "detach"
  let name? := t.text.map w.branchText
  let text := match t.text with
    | some text => if text = "-" then stringOfLossy (Text.ofOctets (w.branchText "-")) else text
    | none => "HEAD"
  let commit? ← match t.text with
    | none => pure w.tip?
    | some _ => do pure (some (← demand (·.startCommit? text)))
  match words.value? "orphan", t.made with
  | some name, none =>
    need (!detaches && t.following = .usual)
    switch { target := .orphan (Config.octetsOf name), commit := commit?, text := name
             isForced := isForced, losesIgnored := losesIgnored, keepsFiles := t.text.isNone }
  | some _, some _ => failure
  | none, some (name, mayBeThere) =>
    need (!detaches && Reference.isBranchName name && (mayBeThere || !w.hasBranch name))
    let newText := stringOfLossy (Text.ofOctets name)
    match commit?, t.text with
    | none, none =>
      -- Without commits, another branch just gets to be the first.
      need (!w.isDetached)
      alter (·.attach (Workspace.branchRef name) "")
    | _, _ =>
      switch { target := .branch name, commit := commit?, text := newText, isForced := isForced
               losesIgnored := losesIgnored, keepsFiles := t.text.isNone && !isForced
               made := some ⟨name, t.text.map fun _ => text, mayBeThere, t.following⟩ }
  | none, none =>
    match detaches, name? with
    | false, some name =>
      if w.hasBranch name then
        switch { target := .branch name, commit := commit?
                 text := stringOfLossy (Text.ofOctets name), isForced := isForced
                 losesIgnored := losesIgnored }
      else switch { target := .commit, commit := commit?, text := text, isForced := isForced
                    losesIgnored := losesIgnored }
    | false, none =>
      -- What counts already stays, and its files may be written again.
      let s ← demand fun w => w.tip?.bind w.archive.snapshotOf?
      need (w.canReadStage && (isForced || w.stage.conflicts.isEmpty))
      if isForced then change (·.reset? s)
    | true, _ => switch { target := .commit, commit := commit?, text := text, isForced := isForced
                          losesIgnored := losesIgnored }

/-- The branch that is asked for, and what it is to follow. -/
def targetOf (words : Words) (text : Option String) (newBranch : String) (forcedBranch : String) :
    Work Target := do
  let following ← given (followingOf? words)
  let asked := (words.value? newBranch).map fun n => (n, false)
  let forced := (words.value? forcedBranch).map fun n => (n, true)
  need (!(asked.isSome && forced.isSome))
  let made := (asked.or forced).map fun (n, b) => (Config.octetsOf n, b)
  match made, words.last? ["track"], words.value? "orphan" with
  | none, some ⟨_, _, false⟩, none =>
    let name ← given (text.bind trackedName)
    return ⟨text, some (name, false), following⟩
  | made, _, _ => return ⟨text, made, following⟩

/-- What is meant by a name that is no commit: a branch like one that is remembered of a remote. -/
def guessed? (words : Words) (w : Workspace) (text : String) : Option Target :=
  let guesses := !words.hasOff "guess" &&
    (words.has "guess" || !Config.isOff w.settings "checkout.guess")
  if guesses && (words.last? ["track"]).isNone then
    (w.onlyRemembered? (Config.octetsOf text)).map fun ref =>
      ⟨some (stringOfLossy (Text.ofOctets ref)), some (Config.octetsOf text, false), .start⟩
  else none

/-- Checks out a branch or a commit, or files. -/
def checkout : Command :=
  command true ("b:= B:= l: overlay 2:ours! 3:theirs! p:patch ignore-skip-worktree-bits" ++
      switchingRules ++ pathRules) fun words => do
    let w ← ask id
    let word (text : String) : String := if text = "-" then "@\x7b-1\x7d" else text
    let isRevision (text : String) : Bool :=
      (w.startCommit? (word text)).isSome || (w.revision? (word text)).isSome
    let isForced := words.has "force"
    need (!words.has "patch" && !(isForced && words.has "merge"))
    let makes := words.has "b" || words.has "B"
    let guess? := match words.operands with
      | first :: rest =>
        if isRevision first || makes || !rest.isEmpty || words.marked = some 0 ||
            (words.marked.isNone && first.toList.any Glob.isSpecial) then none
        else guessed? words w first
      | [] => none
    match guess?, words.operands with
    | some t, first :: _ =>
      need (words.marked.isSome || !isPathThere w first)
      switchTo words t isForced
    | _, _ =>
      let m ← meaningOf words isRevision
      let paths ← pathsGiven words m.paths
      if paths.isEmpty then
        need ((sideOf words).isNone)
        let t ← targetOf words m.revision "b" "B"
        switchTo words t isForced
      else
        need (!makes && !words.has "detach" && !words.has "orphan")
        let source ← match m.revision with
          | some text => do pure (some (← treeGiven (word text)))
          | none => pure none
        let specs ← demand (·.pathspecs? paths)
        restoreFiles words specs source source.isSome true (words.hasOff "overlay")

/-- Switches to a branch, or to a commit if that is said. -/
def switchBranch : Command :=
  command true ("c:create= C:force-create= discard-changes" ++ switchingRules) fun words => do
    let w ← ask id
    need (!isBusy w && words.operands.length ≤ 1)
    let isForced := words.has "force" || words.has "discard-changes"
    need (!(isForced && words.has "merge"))
    match words.operands.head? with
    | none =>
      need (words.has "create" || words.has "force-create" || words.has "orphan" ||
        words.has "detach")
      let t ← targetOf words none "create" "force-create"
      match words.value? "orphan" with
      | some name =>
        -- A branch without commits starts with no files.
        need (!words.has "detach")
        switch { target := .orphan (Config.octetsOf name), commit := none, text := name
                 isForced := isForced }
      | none => switchTo words t isForced
    | some text =>
      need (!words.has "orphan")
      let name := w.branchText text
      let shown := stringOfLossy (Text.ofOctets name)
      let makes := words.has "create" || words.has "force-create" ||
        (words.last? ["track"]).any (!·.isOff)
      if makes || words.has "detach" || w.hasBranch name then
        let t ← targetOf words (some shown) "create" "force-create"
        switchTo words t isForced
      else
        need (w.startCommit? shown).isNone
        let t ← given (guessed? words w shown)
        switchTo words t isForced

/-! ### Setting back -/

/-- The ways in which the last commit is set back, by their names. -/
def resetWays : List (String × ResetWay) :=
  [("soft", .soft), ("mixed", .mixed), ("hard", .hard), ("merge", .merge), ("keep", .keep)]

/-- Sets the last commit back, or what is staged for some paths. -/
def reset : Command :=
  command false (("q:quiet no-refresh mixed! soft! hard! merge! keep! recurse-submodules? " ++
      "p:patch N:intent-to-add") ++ pathRules) fun words => do
    let w ← ask id
    let way? := (words.last? (resetWays.map (·.1))).bind fun g => resetWays.lookup g.name
    let way := way?.getD .mixed
    let isSingle := words.operands.length = 1
    let isRevision (text : String) : Bool :=
      text = "HEAD" || text = "@" ||
      (if isSingle then (w.commitMeant? text).isSome
        else ((w.revision? text).bind w.archive.treeNamed?).isSome)
    let m ← meaningOf words isRevision
    need (m.isMarked || m.paths.all (mayBePath w) || m.revision.isSome)
    let paths ← pathsGiven words m.paths
    let text := m.revision.getD "HEAD"
    let isUnborn := (text = "HEAD" || text = "@") && w.tip?.isNone
    need (!words.has "patch")
    if paths.isEmpty then
      need (way = .soft || way = .mixed || w.location.top.isSome)
      need (!(way = .mixed && w.location.top.isNone))
      need (!words.has "intent-to-add" || way = .mixed)
      let name ← if isUnborn then pure none else do pure (some (← demand (·.commitMeant? text)))
      setBack way name text (words.has "intent-to-add")
    else
      need (way?.all (· = .mixed) && w.location.top.isSome)
      let s ← if isUnborn then (pure [] : Work Snapshot) else
        demand fun w => (w.revision? text).bind w.archive.snapshotOf?
      let specs ← demand (·.pathspecs? paths)
      need w.canStage
      alter fun w =>
        let isMeant := Pathspec.anyCovers specs
        let gone := w.stage.entries.filter fun e =>
          isMeant e.1 e.2.isDir && (s.at? e.1).isNone
        let torn := w.stage.conflicts.filter fun e => isMeant e.1 false
        let stage : Stage := torn.foldl (fun stage e => stage.erase e.1) w.stage
        let stage := Workspace.stageFrom stage
          { isMeant := isMeant, source := some s, inStage := true, dropsRest := true } s
        w.putStage (if words.has "intent-to-add" then
          gone.foldl (fun stage e => stage.put e.1 { e.2 with isIntended := true }) stage else stage)

end GameFixes.Depot.Tool
