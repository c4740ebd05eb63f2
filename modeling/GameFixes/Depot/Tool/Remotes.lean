import GameFixes.Depot.Clone
import GameFixes.Depot.Push
import GameFixes.Depot.Tool.Histories
import GameFixes.Depot.Tool.Settings

/-!
# Commands about remotes

Other depots are cloned, fetched from, caught up with and pushed to, and it is set which ones there
are.
-/

namespace GameFixes.Depot.Tool

open Work

/-! ### What remotes there are -/

/-- Whether there may be a remote with a name. -/
def isRemoteName (name : List Char) : Bool :=
  Reference.isName (Reference.remoteStart ++ name ++ "/test".toList)

/-- A remote that there are settings for. -/
def remoteGiven (name : String) : Work (List Char) := do
  let name := Config.octetsOf name
  need (← ask fun w => w.remotes.contains name)
  return name

/-- The rule by which a remote remembers a branch. -/
def trackRule (remote : List Char) (isMirror : Bool) (branch : String) : List Char :=
  let branch := Config.octetsOf branch
  if isMirror then "+refs/".toList ++ branch ++ ":refs/".toList ++ branch
  else '+' :: branchStart ++ branch ++ ':' :: Reference.remoteStart ++ remote ++ '/' :: branch

/-- Adds a remote. -/
def addRemote (args : List String) : Work Unit := do
  let words ← given (words? "f:fetch tags t:track= m:master= mirror?" args)
  match words.operands with
  | [text, address] =>
    let name := Config.octetsOf text
    need (isRemoteName name && !(← ask fun w => w.remotes.contains name))
    let mirror := words.last? ["mirror"]
    let fetches := mirror.any fun g => !g.isOff && g.value ≠ some "push"
    let pushes := mirror.any fun g => !g.isOff && g.value ≠ some "fetch"
    need (mirror.all fun g => g.value.all fun v => v = "push" || v = "fetch")
    need (!(pushes && !(words.values "track").isEmpty))
    let branches := if words.values "track" = [] then ["*"] else words.values "track"
    let rules := if mirror.isNone || fetches then branches.map (trackRule name fetches) else []
    let tagText := (words.last? ["tags"]).map fun g =>
      (if g.isOff then "--no-tags" else "--tags").toList
    change (·.editSettings? fun pieces => do
      let pieces ← Config.set? .all (.inPart "remote" name "url") (Config.octetsOf address) pieces
      let pieces ← rules.foldlM (fun pieces rule =>
        Config.set? .more (.inPart "remote" name "fetch") rule pieces) pieces
      let pieces ← if pushes then
        Config.set? .all (.inPart "remote" name "mirror") "true".toList pieces else some pieces
      tagText.toList.foldlM (fun pieces text =>
        Config.set? .all (.inPart "remote" name "tagOpt") text pieces) pieces)
    if words.has "fetch" then fetch { remote := name }
    match words.value? "master" with
    | some branch => alter fun w => w.withTree (Reference.putReference w.tree w.location
        (Reference.remoteStart ++ name ++ '/' :: Reference.head)
        (Reference.remoteStart ++ name ++ '/' :: Config.octetsOf branch))
    | none => pure ()
  | _ => failure

/-- The references that remember a remote, by its rules. -/
def rememberedRefs (w : Workspace) (name : List Char) : List RefName :=
  let rules := (w.fetchRules? name).getD []
  (Reference.all w.tree w.naming w.location).filter fun ref =>
    rules.any fun r => r.target.any fun target => (RefRule.starIn? target ref).isSome

/-- The branches that follow a remote. -/
def followers (w : Workspace) (name : List Char) : List (List Char) :=
  (w.settings.filterMap fun e =>
    if e.2 = some name then
      (Text.after? "branch.".toList e.1).bind fun rest =>
        (Text.after? ".remote".toList.reverse rest.reverse).map List.reverse
    else none).eraseDups

/-- Forgets a remote, with all that was remembered of it. -/
def dropRemote (args : List String) : Work Unit := do
  match args with
  | [text] =>
    let name ← remoteGiven text
    let refs ← ask (rememberedRefs · name)
    let branches ← ask (followers · name)
    change (·.editSettings? fun pieces => do
      let pieces ← branches.foldlM (fun pieces b => do
        let pieces := (Config.unset? true (.inPart "branch" b "remote") pieces).getD pieces
        some ((Config.unset? true (.inPart "branch" b "merge") pieces).getD pieces)) pieces
      Config.dropSection? ("remote.".toList ++ name) pieces)
    alter fun w => refs.foldl (fun w ref => w.eraseRef ref) w
  | _ => failure

/-- The name of a reference in which the start is another one. -/
def renamedRef? (old new : List Char) (ref : RefName) : Option RefName :=
  (Text.after? (Reference.remoteStart ++ old ++ ['/']) ref).map fun rest =>
    Reference.remoteStart ++ new ++ '/' :: rest

/-- Gives a remote another name. -/
def renameRemote (args : List String) : Work Unit := do
  let words ← given (words? "progress" args)
  match words.operands with
  | [oldText, newText] =>
    let old ← remoteGiven oldText
    let new := Config.octetsOf newText
    need (isRemoteName new && !(← ask fun w => w.remotes.contains new))
    let branches ← ask (followers · old)
    let rules ← ask (·.remoteValues old "fetch")
    let part := ":refs/remotes/".toList ++ old ++ ['/']
    let renamed := rules.map fun rule =>
      match Text.splitFirst? part rule with
      | some (a, b) => a ++ ":refs/remotes/".toList ++ new ++ '/' :: b
      | none => rule
    change (·.editSettings? fun pieces => do
      let pieces ← Config.renameSection? (.inPart "remote" old "x") (.inPart "remote" new "x") pieces
      let pieces ← if renamed = rules then some pieces else
        renamed.foldlM (fun pieces rule =>
          Config.set? .more (.inPart "remote" new "fetch") rule pieces)
          ((Config.unset? true (.inPart "remote" new "fetch") pieces).getD pieces)
      branches.foldlM (fun pieces b =>
        Config.set? .all (.inPart "branch" b "remote") new pieces) pieces)
    let w ← ask id
    let refs := (Reference.all w.tree w.naming w.location).filterMap fun ref =>
      (renamedRef? old new ref).map (ref, ·)
    -- What is remembered goes by the new name.
    refs.forM fun (ref, other) => do
      let w ← ask id
      match Reference.read w.tree w.naming w.location ref with
      | .points (.reference next) =>
        alter (·.eraseRef ref)
        alter fun w => w.withTree (Reference.putReference w.tree w.location other
          ((renamedRef? old new next).getD next))
      | .points (.object name) =>
        alter (·.eraseRef ref)
        change (·.setRef? other name ("remote: renamed " ++ oldText ++ " to " ++ newText))
      | .absent | .broken => pure ()
  | _ => failure

/-- Gives a remote another address, or one more or less. -/
def setAddress (args : List String) : Work Unit := do
  let words ← given (words? "push add delete" args)
  match words.operands with
  | text :: address :: rest =>
    let name ← remoteGiven text
    need (rest.length ≤ 1 && (rest.isEmpty || !(words.has "add" || words.has "delete")))
    let key := Config.Key.inPart "remote" name (if words.has "push" then "pushurl" else "url")
    let value := Config.octetsOf address
    let old ← ask (·.remoteValues name (if words.has "push" then "pushurl" else "url"))
    if words.has "add" then
      change (·.editSettings? (Config.set? .more key value))
    else if words.has "delete" then
      let left := old.filter fun v => !occursIn address v
      need (left ≠ old && (words.has "push" || !left.isEmpty))
      change (·.editSettings? fun pieces =>
        left.foldlM (fun pieces v => Config.set? .more key v pieces)
          ((Config.unset? true key pieces).getD pieces))
    else
      match rest with
      | [] => change (·.editSettings? (Config.set? .one key value))
      | pattern :: _ =>
        need (old.any (occursIn pattern))
        change (·.editSettings? fun pieces =>
          (old.map fun v => if occursIn pattern v then value else v).foldlM
            (fun pieces v => Config.set? .more key v pieces)
            ((Config.unset? true key pieces).getD pieces))
  | _ => failure

/-- Says which branch of a remote is the main one. -/
def setRemoteHead (args : List String) : Work Unit := do
  let words ← given (words? "a:auto d:delete" args)
  let headOf (name : List Char) : RefName :=
    Reference.remoteStart ++ name ++ '/' :: Reference.head
  let put (name branch : List Char) : Work Unit := do
    let ref := Reference.remoteStart ++ name ++ '/' :: branch
    need (← ask (·.object? ref)).isSome
    alter fun w => w.withTree (Reference.putReference w.tree w.location (headOf name) ref)
  match words.operands with
  | [text] =>
    let name := Config.octetsOf text
    if words.has "delete" then
      need (← ask fun w =>
        decide (Reference.read w.tree w.naming w.location (headOf name) ≠ .absent))
      alter (·.eraseRef (headOf name))
    else
      need (words.has "auto")
      let o ← demand (·.offerOf? name)
      let ref ← given (Clone.guessHead o "master".toList)
      put name (← given (Reference.branch? ref))
  | [text, branch] =>
    need (!words.has "auto" && !words.has "delete")
    put (Config.octetsOf text) (Config.octetsOf branch)
  | _ => failure

/-- Says which branches of a remote are remembered. -/
def setRemoteBranches (args : List String) : Work Unit := do
  let words ← given (words? "add" args)
  match words.operands with
  | text :: branches =>
    let name ← remoteGiven text
    need (!branches.isEmpty)
    let key := Config.Key.inPart "remote" name "fetch"
    change (·.editSettings? fun pieces =>
      branches.foldlM (fun pieces b => Config.set? .more key (trackRule name false b) pieces)
        (if words.has "add" then pieces else (Config.unset? true key pieces).getD pieces))
  | [] => failure

/-- Drops what is remembered of some remotes and is not there any more. -/
def pruneRemotes (args : List String) : Work Unit := do
  let words ← given (words? "n:dry-run" args)
  need (!words.operands.isEmpty)
  words.operands.forM fun text => do
    let name := Config.octetsOf text
    let o ← demand (·.offerOf? name)
    let rules ← demand (·.fetchRules? name)
    if !words.has "dry-run" then alter (·.prune o rules)

/-- Does what is asked about remotes. -/
def remote : Command := fun s env args =>
  onDepot false s env do
    let words ← given (leadingWords? "v:verbose" args)
    match words.operands with
    | [] => pure ()
    | "add" :: args => addRemote args
    | "rename" :: args => renameRemote args
    | "remove" :: args | "rm" :: args => dropRemote args
    | "set-url" :: args => setAddress args
    | "set-head" :: args => setRemoteHead args
    | "set-branches" :: args => setRemoteBranches args
    | "prune" :: args => pruneRemotes args
    | "get-url" :: args => do
      let words ← given (words? "push all" args)
      match words.operands with
      | [text] => let _ ← remoteGiven text
      | _ => failure
    | "show" :: args => do
      let words ← given (words? "n:" args)
      words.operands.forM fun text => do
        if !words.has "n" then let _ ← demand (·.offerOf? (Config.octetsOf text))
    | "update" :: args => do
      let words ← given (words? "p:prune" args)
      let names ← ask fun w => if words.operands.isEmpty then w.remotes
        else words.operands.map Config.octetsOf
      names.forM fun name => fetch
        { remote := name, prunes := if words.has "prune" then some true else none }
    | _ => failure

/-! ### Fetching -/

/-- The options for fetching. -/
def fetchRules : String :=
  "v:verbose q:quiet all set-upstream a:append atomic upload-pack= f:force m:multiple t:tags " ++
    "n: j:jobs= prefetch p:prune P:prune-tags recurse-submodules? dry-run porcelain " ++
    "write-fetch-head k:keep u:update-head-ok progress depth= shallow-since= " ++
    "shallow-exclude= deepen= unshallow! refetch! update-shallow refmap=! o:server-option= " ++
    "4:ipv4! 6:ipv6! negotiation-tip= negotiate-only filter= auto-maintenance auto-gc " ++
    "show-forced-updates write-commit-graph stdin"

/-- The rules that words behind the name of a remote say. -/
def askedRules? : List String → Option (List RefRule)
  | [] => some []
  | "tag" :: name :: rest => do
    let ref := Reference.tagStart ++ Config.octetsOf name
    return ⟨false, false, ref, some ref⟩ :: (← askedRules? rest)
  | text :: rest => do
    let r ← RefRule.ofText? (Config.octetsOf text)
    return r :: (← askedRules? rest)

/-- Which tags are fetched, by the options. -/
def tagsWanted (words : Words) : Option TagChoice :=
  match words.last? ["tags", "n"] with
  | some ⟨"n", _, _⟩ | some ⟨_, _, true⟩ => some .none
  | some ⟨_, _, false⟩ => some .all
  | none => none

/-- How much of a history is fetched, by the options. -/
def depthWanted? (words : Words) : Option (Option Nat) :=
  match words.value? "depth" with
  | none => some none
  | some text => (text.toNat?.filter (· ≠ 0)).map some

/-- What is to be fetched from a remote, by the options. -/
def fetchPlan (words : Words) (name : List Char) (rules : List RefRule) (depth : Option Nat) :
    FetchPlan :=
  { remote := name, asked := rules, tags := tagsWanted words, isForced := words.has "force"
    prunes := (words.last? ["prune"]).map (!·.isOff), appends := words.has "append"
    changesHead := words.has "update-head-ok", depth := depth, isDry := words.has "dry-run" }

/-- Fetches from remotes. -/
def fetchCommand : Command :=
  command false fetchRules fun words => do
    let w ← ask id
    let depth ← given (depthWanted? words)
    if words.has "all" then
      need words.operands.isEmpty
      let isFine ← w.remotes.foldlM (fun isFine name => do
        let isDone ← attempt (fetch { fetchPlan words name [] depth with appends := true })
        return isFine && isDone) true
      need isFine
    else if words.has "multiple" then
      words.operands.forM fun name => fetch (fetchPlan words (Config.octetsOf name) [] depth)
    else
      let name := (words.operands.head?.map Config.octetsOf).getD (w.remoteOf w.branch?)
      let rules ← given (askedRules? (words.operands.drop 1))
      fetch (fetchPlan words name rules depth)
      if words.has "set-upstream" then
        match w.branch?, rules with
        | some b, [r] => change (·.putSettings? [(.inPart "branch" b "remote", name),
            (.inPart "branch" b "merge", ownRefName r.source)])
        | _, _ => pure ()

/-! ### Catching up -/

/-- The options for catching up. -/
def pullRules : String :=
  "v:verbose q:quiet progress recurse-submodules? r:rebase? n: stat log? signoff? squash " ++
    "commit edit cleanup= ff ff-only! verify verify-signatures autostash s:strategy= " ++
    "X:strategy-option= S:gpg-sign? allow-unrelated-histories all a:append upload-pack= " ++
    "f:force t:tags p:prune j:jobs? dry-run k:keep depth= shallow-since= shallow-exclude= " ++
    "deepen= unshallow! update-shallow refmap=! o:server-option= 4:ipv4 6:ipv6 " ++
    "negotiation-tip= show-forced-updates set-upstream summary"

/-- Whether own commits are moved, if an option says it; nothing, if it makes no sense. -/
def movesWanted? (words : Words) : Option (Option Bool) :=
  match words.last? ["rebase"] with
  | none => some none
  | some ⟨_, _, true⟩ => some (some false)
  | some ⟨_, none, false⟩ => some (some true)
  | some ⟨_, some text, false⟩ =>
    if ["merges", "m", "interactive", "i"].contains text then some (some true)
    else (Config.truth? text.toList).map some

/-- Lets the branch that counts catch up. -/
def pullCommand : Command := fun s env args =>
  command true pullRules (fun words => do
    let w ← ask id
    let depth ← given (depthWanted? words)
    let moves ← given (movesWanted? words)
    let favor ← given (favorOf? (words.values "strategy-option"))
    let keepsOurs ← given (keepsOursBy? (words.values "strategy"))
    let how ← given (cleaningOf? false ((words.value? "cleanup").or (w.setting? "commit.cleanup")))
    let name := (words.operands.head?.map Config.octetsOf).getD (w.remoteOf w.branch?)
    let rules ← given (askedRules? (words.operands.drop 1))
    need (!words.has "verify-signatures" && !words.has "gpg-sign")
    need (!words.has "edit" || leavesText (editorOf w))
    let plan := fetchPlan words name rules depth
    let reason := (env.get? "GIT_REFLOG_ACTION").getD (" ".intercalate ("pull" :: args))
    if words.has "dry-run" then fetch { plan with isDry := true }
    else
      pull { fetch := plan, forward := forwardOf? words, moves := moves
             commits := !words.hasOff "commit", squashes := words.has "squash", favor := favor
             keepsOurs := keepsOurs, allowsUnrelated := words.has "allow-unrelated-histories"
             cleaning := how, shelves := (words.last? ["autostash"]).map (!·.isOff)
             isQuiet := words.has "quiet"
             hasSummary := !words.has "n" && !words.hasOff "stat" && !words.hasOff "summary" &&
               !Config.isOff w.settings "merge.stat"
             reason := reason }
      if words.has "set-upstream" then
        match w.branch?, rules with
        | some b, [r] => change (·.putSettings? [(.inPart "branch" b "remote", name),
            (.inPart "branch" b "merge", ownRefName r.source)])
        | _, _ => pure ()) s env args

/-! ### Pushing -/

/-- The options for pushing. -/
def pushRules : String :=
  "v:verbose q:quiet repo= all branches mirror d:delete tags n:dry-run porcelain f:force " ++
    "force-with-lease? force-if-includes recurse-submodules= thin receive-pack= exec= " ++
    "u:set-upstream progress prune no-verify follow-tags signed? atomic o:push-option= " ++
    "4:ipv4! 6:ipv6!"

/-- Pushes to a remote. -/
def pushCommand : Command :=
  command false pushRules fun words => do
    let w ← ask id
    let usual := ((w.branch?.bind fun b => w.branchValue? b "pushremote").or
      (Config.value? w.settings "remote.pushdefault")).getD (w.remoteOf w.branch?)
    let name := ((words.operands.head?.or (words.value? "repo")).map Config.octetsOf).getD usual
    let rules ← given (askedRules? (words.operands.drop 1))
    let withBranches := words.has "all" || words.has "branches"
    let isMirror := words.has "mirror" ||
      Config.isOn w.settings (Workspace.partSetting "remote" name "mirror")
    need (!(withBranches && !rules.isEmpty) && !(words.has "mirror" && !rules.isEmpty) &&
      !(words.has "delete" && rules.isEmpty) && !(withBranches && words.has "mirror"))
    let plan : PushPlan :=
      { remote := name, asked := rules
        isForced := words.has "force" || words.has "force-with-lease"
        withBranches := withBranches, withTags := words.has "tags", isMirror := isMirror
        isDeletion := words.has "delete", isDry := words.has "dry-run" }
    let (after, isFine) ← demand (·.push? plan)
    set after
    need isFine
    if words.has "set-upstream" then
      let pushed := if rules.isEmpty then (w.branch?.map fun b => (b, branchStart ++ b)).toList
        else rules.filterMap fun r =>
          (w.pushSource? r.source).bind fun (ref, _) =>
            (ref.bind Reference.branch?).map fun b =>
              (b, ownRefName ((r.target.filter (· ≠ [])).getD (branchStart ++ b)))
      pushed.forM fun (b, ref) => change (·.putSettings?
        [(.inPart "branch" b "remote", name), (.inPart "branch" b "merge", ref)])

/-! ### Cloning -/

/-- The options for cloning. -/
def cloneRules : String :=
  "v:verbose q:quiet progress reject-shallow n:no-checkout bare mirror l:local no-hardlinks " ++
    "s:shared recurse-submodules? recursive? j:jobs= template= reference= reference-if-able= " ++
    "dissociate o:origin= b:branch= u:upload-pack= depth= shallow-since= shallow-exclude= " ++
    "single-branch no-tags shallow-submodules separate-git-dir= c:config= server-option= " ++
    "4:ipv4! 6:ipv6! filter= also-filter-submodules remote-submodules sparse bundle-uri= " ++
    "naked ref-format="

/-- The name of the directory for a clone, by the address. -/
def directoryFor (address : String) (isBare : Bool) : String :=
  let withoutEnd (mark s : List Char) : List Char :=
    match Text.after? mark.reverse s.reverse with
    | some rest => rest.reverse
    | none => s
  let trimmed (s : List Char) : List Char :=
    (s.reverse.dropWhile fun c => c = '/' || Glob.isSpace c).reverse
  let s := withoutEnd "/.git".toList (trimmed address.toList)
  let s := (s.reverse.takeWhile fun c => c ≠ '/' && c ≠ ':').reverse
  let s := withoutEnd ".git".toList (trimmed s)
  String.ofList s ++ if isBare then ".git" else ""

/-- Clones a depot. -/
def clone : Command := fun s env args =>
  let plan? : Option ClonePlan := do
    let words ← words? cloneRules args
    let isMirror := words.has "mirror"
    let isBare := words.has "bare" || isMirror || words.has "naked"
    let (address, path) ← match words.operands with
      | [address] => some (address, directoryFor address isBare)
      | [address, path] => some (address, path)
      | _ => none
    let remote := (words.value? "origin").map Config.octetsOf
    let settings ← (words.values "config").mapM fun text =>
      let name := text.toList.takeWhile (· ≠ '=')
      (Config.Key.ofText? name).map fun k =>
        (k, match (Config.octetsOf text).dropWhile (· ≠ '=') with
          | [] => "true".toList
          | _ :: value => value)
    let depth ← depthWanted? words
    let isLocal := !words.hasOff "local"
    let isNear := isPath (Config.octetsOf address) && isLocal
    let person := ((Workspace.otherSettings? s env).map fun e => e.1 ++ e.2).getD []
    if (remote.all isRemoteName) && person.all Config.isSound && path ≠ "" &&
        (settings.all fun e => Config.isSound (e.1.name, some e.2)) &&
        !(isBare && remote.isSome && words.has "bare") && !words.has "separate-git-dir" then
      some
        { address := address, path := path, remote := remote
          branch := (words.value? "branch").map Config.octetsOf
          isBare := isBare, isMirror := isMirror, checksOut := !words.has "no-checkout"
          isSingle := words.has "single-branch" || (depth.isSome && !words.hasOff "single-branch")
          hasTags := !words.has "no-tags"
          isLocal := isLocal, depth := if isNear then none else depth, settings := settings
          template := (words.value? "template").map fun path =>
            if path = "" then .nothing else .directory (bytesOf path) }
    else none
  match plan? with
  | some plan =>
    let (t, isDone) := Clone.run s env plan
    ⟨{ t with cwd := s.cwd }, isDone, ""⟩
  | none => .refused s

end GameFixes.Depot.Tool
