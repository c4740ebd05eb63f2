import GameFixes.Depot.Clone
import GameFixes.Depot.Tool.Files
import GameFixes.Depot.Tool.Questions
import GameFixes.Depot.Tool.Settings

/-!
# Commands about parts of a depot

The stage, references and objects can be changed one by one, without a look at the rest.
-/

namespace GameFixes.Depot.Tool

open Work

/-! ### The stage -/

/-- The kind that octal digits say. -/
def kindOf? (digits : String) : Option Kind :=
  [Kind.file, .program, .link, .nested].find? fun k => k.digits = digits

/-- Stages an object for a place, without a look at what stands there. -/
def stageObject (text : String) : Work Unit := do
  match Text.splitOn ',' text.toList with
  | [digits, name, path] =>
    let kind ← given (kindOf? (String.ofList digits))
    need (← ask fun w => w.naming.isName name)
    let specs ← demand (·.pathspecs? [String.ofList path])
    let spec ← given specs.head?
    alter fun w => w.putStage (w.stage.put spec.place { item := ⟨kind, String.ofList name⟩ })
  | _ => failure

/-- Stages the file at a path as it is there, as the options say. -/
def stagePath (words : Words) (sign : Option Bool) (path : String) : Work Unit := do
  let specs ← demand (·.pathspecs? [path])
  let p := (← given specs.head?).place
  let w ← ask id
  let stage := w.stage
  need (p ≠ [])
  let held? := (words.last? ["assume-unchanged", "skip-worktree"]).map fun g => !g.isOff
  match held?, stage.at? p with
  | some isHeld, some e => set (w.putStage (stage.put p { e with isHeld := isHeld }))
  | some _, none => failure
  | none, e? =>
    if words.has "force-remove" then set (w.putStage (stage.erase p))
    else
      match w.standing? p with
      | none | some .dir =>
        need (words.has "remove" && (w.standing? p).isNone)
        set (w.putStage (stage.erase p))
      | some n =>
        need (e?.isSome || words.has "add" || (stage.conflicts.lookup p).isSome)
        let (w, stage) ← given (w.take? {} stage stage p n)
        let s : Workspace.Staged := ⟨w, stage, true⟩
        let s := match sign with
          | some b => s.setPrograms b fun q _ => q = p
          | none => s
        need s.isSound
        set (s.workspace.putStage s.stage)

/-- Changes what is staged, path by path. -/
def updateStage : Command :=
  command true ("q: ignore-submodules add replace remove unmerged refresh really-refresh " ++
      "cacheinfo= chmod=! assume-unchanged skip-worktree ignore-skip-worktree-entries " ++
      "info-only force-remove z: stdin index-info unresolve g:again ignore-missing verbose " ++
      "clear-resolve-undo index-version= split-index untracked-cache force-write-index " ++
      "fsmonitor") fun words => do
    need (← ask (·.canStage))
    let sign ← match words.value? "chmod" with
      | some text => do pure (some (← given (programSign? text)))
      | none => pure none
    (words.values "cacheinfo").forM stageObject
    words.operands.forM (stagePath words sign)
    if words.has "refresh" || words.has "really-refresh" then
      need (words.has "q" || (← ask fun w => w.isDirStaged && w.stage.conflicts.isEmpty))

/-- Lets the stage become that of a tree. -/
def readTree : Command :=
  command false ("index-output=! empty v:verbose m: trivial aggressive reset prefix=! u: " ++
      "exclude-per-directory=! i: n:dry-run no-sparse-checkout debug-unpack " ++
      "recurse-submodules? q:quiet")
    fun words => do
      let w ← ask id
      need w.canStage
      if words.has "empty" then alter (·.putStage {})
      else
        let trees ← given (words.operands.mapM fun text =>
          (w.revision? text).bind w.archive.snapshotOf?)
        match trees with
        | [s] =>
          if words.has "dry-run" then pure ()
          else if words.has "u" && words.has "reset" then change (·.reset? s)
          else if words.has "u" then
            change (·.advance? ⟨w.stage.snapshot, s, true⟩)
          else
            need (words.has "reset" || !words.has "m" || w.stage.conflicts.isEmpty)
            alter (·.stageSnapshot s)
        | [s, t] =>
          need (words.has "m" && words.has "u")
          change (·.advance? ⟨s, t, true⟩)
        | _ => failure

/-- Writes what is staged as a tree. -/
def writeTree : Command :=
  question false "missing-ok prefix=" fun _ w => w.canReadStage && w.stage.conflicts.isEmpty

/-- Names objects by files. -/
def nameObjects : Command := fun s env args =>
  match words? "t:= w: stdin stdin-paths no-filters literally path=" args with
  | some words =>
    match words.operands.mapM s.read? with
    | some contents =>
      if words.has "w" then
        onDepot false s env (alter fun w => w.withArchive (w.archive.putAll (contents.map .blob)))
      else .nothing s
    | none => .refused s
  | none => .refused s

/-! ### References -/

/-- Lets a reference stand for another one, or says which one it stands for. -/
def symbolicReference : Command :=
  command false "q:quiet d:delete short recurse m:=" fun words => do
    let w ← ask id
    match words.has "delete", words.operands with
    | true, [name] =>
      need (name ≠ "HEAD" && (match Reference.read w.tree w.naming w.location name.toList with
        | .points (.reference _) => true
        | _ => false))
      alter (·.eraseRef name.toList)
    | false, [name] =>
      need (match Reference.read w.tree w.naming w.location (Config.octetsOf name) with
        | .points (.reference _) => true
        | _ => false)
    | false, [name, target] =>
      let target := Config.octetsOf target
      need (Reference.isName target)
      need (name ≠ "HEAD" || (Text.after? refStart target).isSome)
      alter fun w => w.withTree
        (Reference.putReference w.tree w.location (Config.octetsOf name) target)
    | _, _ => failure

/-- Lets a reference say an object, or drops it. -/
def updateReference : Command :=
  command false "m:= d: no-deref z: stdin create-reflog" fun words => do
    let w ← ask id
    let isOld (ref : RefName) (old : Option String) : Bool :=
      match old with
      | none => true
      | some text =>
        if text = "" || text = w.naming.zero then (w.object? ref).isNone
        else (w.revision? text).isSome && w.object? ref = w.revision? text
    match words.has "d", words.operands with
    | true, name :: rest =>
      let ref := Config.octetsOf name
      need (rest.length ≤ 1 && (w.object? ref).isSome && isOld ref rest.head?)
      let target ← demand (·.follow? ref)
      alter (·.eraseRef (if words.hasOff "deref" || words.has "no-deref" then ref else target.1))
    | false, name :: new :: rest =>
      let ref := Config.octetsOf name
      need (rest.length ≤ 1 && isOld ref rest.head? && Reference.isName ref)
      let object ← demand (·.revision? new)
      need (w.archive.has object)
      let isBranch := (Reference.branch? ref).isSome
      need (!isBranch || (w.archive.get? object).any fun o => o.word = "commit")
      change (·.setRef? ref object ((words.value? "m").getD ""))
    | _, _ => failure

/-- Looks at what a remote shows. -/
def listRemote : Command := fun s env args =>
  match words? ("q:quiet upload-pack= exec= t:tags h:heads branches refs get-url sort= " ++
      "exit-code symref o:server-option=") args with
  | some words =>
    let w? := (Workspace.ofSite? s env).or <| do
      let (person, said) ← Workspace.otherSettings? s env
      some { site := s, env := env, location := ⟨s.cwd, s.cwd, none⟩, settings := person ++ said }
    match w? with
    | some w =>
      let name := (words.operands.head?.map Config.octetsOf).getD (w.remoteOf w.branch?)
      match w.offerOf? name with
      | some o =>
        let fits (ref : RefName) : Bool :=
          let patterns := words.operands.drop 1
          patterns.isEmpty || patterns.any fun p =>
            Glob.covers false ("*/".toList ++ Config.octetsOf p) ('/' :: ref)
        let found := (o.refs.map (·.1) ++ (o.head.map fun _ => Reference.head).toList).filter fits
        if words.has "exit-code" && found.isEmpty then .refused s else .nothing s
      | none => .refused s
    | none => .refused s
  | none => .refused s

/-- Puts all references on the lines of one file. -/
def packReferences : Command :=
  command false "all prune include= exclude= auto" fun _ => alter fun w =>
    let refs := (Reference.all w.tree w.naming w.location).filterMap fun ref =>
      match Reference.read w.tree w.naming w.location ref with
      | .points (.object name) =>
        if Reference.isPrivate ref then none else some (ref, name)
      | _ => none
    let text := Clone.packedText w.archive refs
    let t := w.tree.put (w.location.shared ++ [Reference.packedName]) (.file (Text.ofOctets text))
    w.withTree (refs.foldl (fun t e =>
      Reference.eraseFile t (w.location.shared ++ [refsName]) (Reference.place w.location e.1)) t)

end GameFixes.Depot.Tool
