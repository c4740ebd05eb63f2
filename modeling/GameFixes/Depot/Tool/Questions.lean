import GameFixes.Depot.Tool.Histories

/-!
# Commands that ask

Some commands only look at a depot. What they find is told by whether they are done: they are
refused if something that was named is not there, or, if that is asked for, if something differs.
-/

namespace GameFixes.Depot.Tool

open Work

/-! ### What is looked at -/

/-- The options for differences. -/
def diffRules : String :=
  "p:patch u: s:no-patch U:unified= W:function-context raw patch-with-raw patch-with-stat " ++
    "numstat shortstat dirstat? X:? cumulative dirstat-by-file? check summary name-only " ++
    "name-status stat? stat-width= stat-name-width= stat-graph-width= stat-count= " ++
    "compact-summary binary full-index color? ws-error-highlight= z: abbrev? src-prefix= " ++
    "dst-prefix= line-prefix= no-prefix default-prefix inter-hunk-context= " ++
    "output-indicator-new= output-indicator-old= output-indicator-context= B:break-rewrites? " ++
    "M:find-renames? D:irreversible-delete C:find-copies? find-copies-harder no-renames " ++
    "rename-empty follow l:= minimal w:ignore-all-space b:ignore-space-change " ++
    "ignore-space-at-eol ignore-cr-at-eol ignore-blank-lines I:ignore-matching-lines= " ++
    "indent-heuristic patience histogram diff-algorithm= anchored= word-diff? " ++
    "word-diff-regex= color-words? color-moved? color-moved-ws= relative? a:text R: " ++
    "exit-code quiet ext-diff textconv ignore-submodules? submodule? ita-invisible-in-index " ++
    "ita-visible-in-index S:= G:= pickaxe-all pickaxe-regex O:= rotate-to= skip-to= " ++
    "find-object= diff-filter= output= cached staged merge-base no-index base ours theirs 0: " ++
    "1: 2: 3: q:"

/-- The options for histories besides those for differences. -/
def logRules : String :=
  diffRules ++ (" n:max-count= skip= since= after= until= before= author= committer= grep= " ++
      "grep-reflog= all-match invert-grep i:regexp-ignore-case E:extended-regexp " ++
      "F:fixed-strings P:perl-regexp remove-empty merges no-merges min-parents= max-parents= " ++
      "first-parent not all branches? tags? remotes? glob= exclude= reflog ignore-missing " ++
      "cherry-mark cherry-pick left-only right-only cherry g:walk-reflogs merge boundary " ++
      "simplify-by-decoration show-pulls full-history dense sparse simplify-merges " ++
      "ancestry-path? date-order author-date-order topo-order reverse pretty? format= " ++
      "abbrev-commit oneline encoding= expand-tabs? notes? standard-notes show-notes? " ++
      "show-signature relative-date date= parents children left-right graph " ++
      "show-linear-break? c: cc m: t: r: L:= source mailmap use-mailmap decorate? " ++
      "decorate-refs= decorate-refs-exclude= clear-decorations no-walk? do-walk stdin count " ++
      "timestamp header objects objects-edge disk-usage? 4:? 5:? 6:? 7:? 8:? 9:?")

/-- What words in front of paths mean as commits: those that are meant, and those that are not. -/
structure Selection where
  wanted : List ObjectName := []
  unwanted : List ObjectName := []
  /-- What was given, one for each word. -/
  sides : List ObjectName := []
  paths : List String := []

/-- What a word means as commits, if it does. -/
def selected? (w : Workspace) (text : String) : Option Selection :=
  let object (s : List Char) : Option ObjectName :=
    (w.revision? (if s = [] then "HEAD" else String.ofList s)).filter w.archive.has
  let s := text.toList
  match Text.splitFirst? "..".toList s with
  | some (x, '.' :: y) => do
    let (x, y) := (← object x, ← object y)
    return { wanted := [x, y], sides := ((w.archive.mergeBases x y).take 1) ++ [y] }
  | some (x, y) =>
    if s = "..".toList then none
    else do
      let (x, y) := (← object x, ← object y)
      return { wanted := [y], unwanted := [x], sides := [x, y] }
  | none =>
    match s with
    | '^' :: s => (object s).map fun n => { unwanted := [n], sides := [n] }
    | s =>
      let base := ["^@", "^!", "^-"].findSome? fun mark =>
        (Text.after? mark.toList.reverse s.reverse).map List.reverse
      match base with
      | some s => if s = [] then none else
          (object s).map fun n => { wanted := [n], sides := [n] }
      | none => if s = [] then none else
          (object s).map fun n => { wanted := [n], sides := [n] }

/-- Two selections as one. -/
def Selection.append (a b : Selection) : Selection :=
  ⟨a.wanted ++ b.wanted, a.unwanted ++ b.unwanted, a.sides ++ b.sides, a.paths ++ b.paths⟩

/-- What operands mean: commits first, and then paths, which must be there unless two hyphens stand in
front of them. -/
def selectionOf? (w : Workspace) (marked : Option Nat) (operands : List String) :
    Option Selection :=
  match marked with
  | some n => do
    let l ← (operands.take n).mapM (selected? w)
    return (l.foldl Selection.append {}).append { paths := operands.drop n }
  | none =>
    let rec read : List String → Option Selection
      | [] => some {}
      | text :: rest =>
        match selected? w text with
        | some sel =>
          if isPathThere w text then none else (read rest).map sel.append
        | none =>
          if (text :: rest).all (mayBePath w) then some { paths := text :: rest } else none
    read operands

/-! ### Differences -/

/-- The items that count for what stands in the directory, by the stage. -/
def standingSnapshot (w : Workspace) : Snapshot :=
  let stage := w.stage
  stage.entries.filterMap fun (p, e) =>
    if e.isHeld then some (p, e.item)
    else
      match w.standing? p with
      | none => if e.item.kind = .nested then some (p, e.item) else none
      | some n =>
        if w.isChanged stage p e n then
          (w.itemOf? stage p n).map (p, ·)
        else some (p, e.item)

/-- Whether two snapshots differ at some places. -/
def differ (isMeant : Place → Bool → Bool) (s t : Snapshot) : Bool :=
  let meant (s : Snapshot) : Snapshot := s.filter fun e => isMeant e.1 e.2.kind.isDir
  !(meant s).same (meant t)

/-- Whether there are differences of the kind that is asked for. -/
def hasDifferences? (words : Words) (w : Workspace) : Option Bool := do
  let sel ← selectionOf? w words.marked words.operands
  let specs ← w.pathspecs? sel.paths
  let isMeant := Pathspec.admits specs
  let isStaged := words.has "cached" || words.has "staged"
  let snapshot (n : ObjectName) : Option Snapshot := w.archive.snapshotOf? n
  let staged := w.stage.snapshot
  let isTorn := w.stage.conflicts.any fun e => isMeant e.1 false
  match isStaged, sel.sides with
  | true, [] => return isTorn || differ isMeant staged w.headSnapshot
  | true, [x] => return isTorn || differ isMeant staged (← snapshot x)
  | false, [] =>
    let files := standingSnapshot w
    return isTorn || differ isMeant files (w.stage.entries.filterMap fun e =>
      if e.2.isIntended then none else some (e.1, e.2.item))
  | false, [x] =>
    match snapshot x with
    | some s => return isTorn || differ isMeant (standingSnapshot w) s
    | none => none
  | false, x :: y :: _ =>
    match snapshot x, snapshot y with
    | some s, some t => return differ isMeant s t
    | _, _ => return x ≠ y
  | true, _ => none

/-- Asks for differences between two files that need not be in a depot. -/
def diffFiles (s : Site) (words : Words) : Outcome :=
  match words.operands with
  | [a, b] =>
    match s.read? a, s.read? b with
    | some x, some y => if x = y then .nothing s else .refused s
    | _, _ => .refused s
  | _ => .refused s

/-- Asks for differences. -/
def diff : Command := fun s env args =>
  match words? diffRules args with
  | none => .refused s
  | some words =>
    if words.has "no-index" || (meant? s env).isNone then diffFiles s words
    else
      onDepot false s env do
        need (← ask (·.canReadStage))
        let isDifferent ← demand (hasDifferences? words)
        need (!isDifferent || !(words.has "exit-code" || words.has "quiet"))

/-! ### Histories -/

/-- Whether words about references stand for some of them. -/
def namesReferences (words : Words) : Bool :=
  ["all", "branches", "tags", "remotes", "glob", "reflog", "stdin"].any words.has

/-- Whether a history can be told. -/
def canTell (needsCommit : Bool) (words : Words) (w : Workspace) : Bool :=
  let numbers := (["max-count", "skip"].map words.values).flatten
  (numbers.all fun text => (Config.number? text.toList).isSome) &&
  match selectionOf? w words.marked words.operands with
  | none => false
  | some sel =>
    if sel.sides.isEmpty && !namesReferences words then
      !needsCommit && (w.tip?.any fun n => (w.archive.commitNamed? n).isSome)
    else sel.sides.all fun n => (w.archive.peeled? n).isSome

/-- Tells a history. -/
def log : Command := question false logRules (canTell false)

/-- Lists commits. -/
def revList : Command := question false logRules (canTell true)

/-- Shows objects. -/
def showObjects : Command :=
  question false logRules fun words w =>
    match selectionOf? w words.marked words.operands with
    | none => false
    | some sel => if sel.sides.isEmpty then w.tip?.isSome else true

/-- Says what is changed and what is staged. -/
def status : Command :=
  question true ("v:verbose s:short b:branch show-stash ahead-behind porcelain? long z:null " ++
      "u:untracked-files? ignored? ignore-submodules? column? no-renames M:find-renames?!") fun words w =>
    w.canReadStage && (words.values "untracked-files").all isUntrackedWord &&
      ((words.values "porcelain").all fun v => ["1", "2", "v1", "v2"].contains v) &&
      ((words.values "ignored").all fun v => ["traditional", "no", "matching"].contains v) &&
      (w.pathspecs? words.operands).isSome

/-! ### Files -/

/-- Lists files; every path must stand for one, if that is asked for. -/
def listFiles : Command :=
  question false ("z: t: v: f: c:cached d:deleted m:modified o:others i:ignored s:stage " ++
      "k:killed directory eol empty-directory u:unmerged resolve-undo x:exclude=! " ++
      "X:exclude-from=! exclude-per-directory= exclude-standard! full-name! " ++
      "recurse-submodules error-unmatch with-tree= abbrev? debug deduplicate sparse format=!") fun words w =>
    let stage := w.stage
    let others := words.has "others"
    let shows (s : Pathspec) : Bool :=
      let files := if others then
          (w.unstaged stage).any fun (p, n) => s.covers p (n = .dir) &&
            !(words.has "exclude-standard" && w.isIgnored p (n = .dir))
        else w.isStaged s
      let changed := stage.entries.any fun (p, e) => s.covers p e.isDir &&
        match w.standing? p with
        | none => true
        | some n => words.has "modified" && w.isChanged stage p e n
      if words.has "deleted" || words.has "modified" then changed && !others else files
    match w.pathspecs? words.operands with
    | some specs => w.canReadStage && (!words.has "error-unmatch" || specs.all shows)
    | none => false

/-- Lists what a tree has. -/
def listTree : Command :=
  question false ("d: r: t: z: l:long! name-only! name-status! object-only! full-name " ++
      "full-tree format=! abbrev?") fun words w =>
    words.operands.head?.any fun text => ((w.revision? text).bind w.archive.treeNamed?).isSome

/-- Says which of some paths are ignored. -/
def checkIgnore : Command :=
  question false "q:quiet v:verbose stdin z: n:non-matching no-index" fun words w =>
    match w.pathspecs? words.operands with
    | some specs => !specs.isEmpty && (!words.has "quiet" || specs.length = 1) &&
        specs.any fun s =>
          (words.hasOff "index" || words.has "no-index" || !w.isStaged s) &&
            w.isIgnored s.place (w.standing? s.place = some .dir)
    | none => false

/-- Searches files for a text. -/
def search : Command :=
  question false (logRules ++ " e:= h: H: o: N: ") fun words w =>
    match words.operands with
    | pattern :: _ => w.stage.entries.any fun (p, _) => (w.fileAt? p).any fun content =>
        Text.occurs (Config.octetsOf pattern) (Text.octets content)
    | [] => false

/-- Says who changed a file last. -/
def blame : Command :=
  question true (logRules ++ " e: ") fun words w =>
    match w.pathspecs? (words.operands.reverse.take 1) with
    | some [s] => (w.headSnapshot.at? s.place).isSome && (w.standing? s.place).isSome
    | _ => false

/-! ### Objects and references -/

/-- Whether words name revisions, or paths behind them. -/
def canParse (w : Workspace) (verifies : Bool) : List String → Option Nat
  | [] => some 0
  | "--" :: _ => some 0
  | "--show-toplevel" :: args => if w.location.top.isSome then canParse w verifies args else none
  | "--default" :: _ :: args | "--git-path" :: _ :: args | "--prefix" :: _ :: args =>
    canParse w verifies args
  | arg :: args =>
    if arg.toList.head? = some '-' && arg ≠ "-" then canParse w verifies args
    else
      let s := arg.toList
      let name := match s with
        | '^' :: s => s
        | s => s
      let isFound := (w.revision? (String.ofList name)).isSome ||
        (!verifies && (selected? w arg).isSome)
      if isFound then (canParse w verifies args).map (· + 1)
      else if verifies then none
      else if (arg :: args).all (isPathThere w) then some 0 else none

/-- Says what names stand for. -/
def parseRevisions : Command := fun s env args =>
  onDepot false s env do
    let verifies := args.contains "--verify"
    let n ← demand (canParse · verifies args)
    need (!verifies || n = 1 || (n = 0 && args.contains "--default"))

/-- Looks at an object. -/
def lookAt : Command :=
  question false ("e: p: t: s: allow-unknown-type use-mailmap batch?! batch-check?! Z: " ++
      "batch-command?! batch-all-objects! buffer follow-symlinks unordered textconv! " ++
      "filters! path=")
    fun words w =>
      let has (text : String) : Bool := (w.revision? text).any w.archive.has
      let isAsked := ["e", "p", "t", "s", "textconv", "filters"].any words.has
      match words.operands with
      | [] => words.has "batch" || words.has "batch-check" || words.has "batch-command"
      | [text] => isAsked && has text
      | [word, text] => !isAsked && ((w.revision? text).bind w.archive.get?).any fun o =>
          o.word = word || (word = "tree" && o.word = "commit")
      | _ => false

/-- Looks for what commits have in common. -/
def commonBase : Command :=
  question false "a:all octopus! independent! is-ancestor! fork-point!" fun words w =>
    match words.operands.mapM w.commitMeant? with
    | some [x, y] =>
      if words.has "is-ancestor" then w.archive.isAfter y x
      else if words.has "independent" then true
      else !(w.archive.mergeBases x y).isEmpty
    | some (x :: l) => words.has "independent" || l.all fun y => !(w.archive.mergeBases x y).isEmpty
    | _ => false

/-- Lists references. -/
def showReferences : Command :=
  question false ("tags branches heads exists verify head d:dereference s:hash? abbrev? " ++
      "q:quiet exclude-existing?!") fun words w =>
    let all := w.references.map (·.1)
    let isKind (ref : RefName) : Bool :=
      let heads := words.has "heads" || words.has "branches"
      (!words.has "tags" && !heads) || (words.has "tags" &&
        (Text.after? Reference.tagStart ref).isSome) ||
        (heads && (Reference.branch? ref).isSome)
    let fits (ref : RefName) (pattern : String) : Bool :=
      let p := Config.octetsOf pattern
      ref = p || (Text.after? ('/' :: p).reverse ref.reverse).isSome
    if words.has "verify" || words.has "exists" then
      !words.operands.isEmpty && words.operands.all fun text =>
        (text = "HEAD" || (Text.after? refStart text.toList).isSome) &&
          (w.object? (Config.octetsOf text)).isSome
    else
      let found := all.filter fun ref =>
        isKind ref && (words.operands.isEmpty || words.operands.any (fits ref))
      !found.isEmpty || (words.has "head" && w.tip?.isSome)

/-- Names a commit by the last tag before it. -/
def describe : Command :=
  question false ("contains debug all tags long first-parent abbrev? exact-match candidates= " ++
      "match= exclude= always dirty? broken?") fun words w =>
    let names := if words.operands.isEmpty then ["HEAD"] else words.operands
    let isTag (e : RefName × ObjectName) : Bool :=
      (Text.after? Reference.tagStart e.1).isSome && (words.has "tags" || words.has "contains" ||
        (w.archive.get? e.2).any (·.word = "tag"))
    let tips := (w.references.filter fun e => words.has "all" || isTag e).filterMap fun e =>
      w.archive.commitNamed? e.2
    names.all fun text => (w.commitMeant? text).any fun n =>
      words.has "always" ||
        (if words.has "exact-match" then tips.contains n
          else if words.has "contains" then tips.any fun t => w.archive.isAfter t n
          else tips.any fun t => w.archive.isAfter n t)

/-- Says whether there may be a reference with a name. -/
def checkReferenceName : Command := fun s _ args =>
  match words? "allow-onelevel refspec-pattern normalize print branch" args with
  | some words =>
    let isFine := words.operands.length = 1 && words.operands.all fun text =>
      let name := Config.octetsOf text
      if words.has "branch" then Reference.isBranchName name
      else Reference.isName name && (name.contains '/' || words.has "allow-onelevel")
    if isFine then .nothing s else .refused s
  | none => .refused s

end GameFixes.Depot.Tool
