import GameFixes.Depot.Advance
import GameFixes.Depot.Creation
import GameFixes.Depot.Fetch

/-!
# Cloning

A clone is a new depot with what another one shows, which it remembers as its remote. The branch
that counts there counts in the clone too, and its files are written to the directory.
-/

namespace GameFixes.Depot

/-- How a depot is cloned. -/
structure ClonePlan where
  address : String
  path : String
  /-- What the remote is called. -/
  remote : Option (List Char) := none
  /-- The branch, or the tag, that is to count. -/
  branch : Option (List Char) := none
  isBare : Bool := false
  /-- Whether all references are taken over as they are. -/
  isMirror : Bool := false
  checksOut : Bool := true
  /-- Whether only one branch is remembered. -/
  isSingle : Bool := false
  hasTags : Bool := true
  /-- Whether objects may be taken over without a look at them. -/
  isLocal : Bool := true
  depth : Option Nat := none
  /-- More settings. -/
  settings : List (Config.Key × List Char) := []
  template : Option Template := none

namespace Clone

/-! ### Which branch counts -/

/-- The branch that counts in another depot, as far as it can be told. -/
def guessHead (o : Offer) (usual : List Char) : Option RefName :=
  let isFit (ref : RefName) : Bool := (o.refs.lookup ref).isSome && o.refs.lookup ref = o.head
  match o.headRef with
  | some ref => if (o.refs.lookup ref).isSome && ((Text.after? branchStart ref).isSome ||
      (Text.after? Reference.tagStart ref).isSome) then some ref else none
  | none =>
    let first := [branchStart ++ usual, branchStart ++ "master".toList]
    match first.find? isFit with
    | some ref => some ref
    | none => ((o.refs.map (·.1)).filter fun ref => (Text.after? branchStart ref).isSome).find? isFit

/-- The reference that somebody asks for by the name of a branch or a tag. -/
def askedRef? (o : Offer) (name : List Char) : Option RefName :=
  [branchStart ++ name, Reference.tagStart ++ name].find? fun ref => (o.refs.lookup ref).isSome

/-- What counts in a clone. -/
inductive Head
  | branch (ref : RefName) (name : ObjectName)
  /-- No branch, but a commit. -/
  | commit (name : ObjectName)
  /-- A branch that does not exist yet. -/
  | unborn (ref : RefName)
  deriving DecidableEq, Repr

/-- What counts in a clone, unless a branch is asked for that is not there. -/
def headOf? (o : Offer) (usual : List Char) (asked : Option (List Char)) : Option Head :=
  let ofRef (ref : RefName) : Option Head :=
    (o.refs.lookup ref).map fun name =>
      if (Text.after? branchStart ref).isSome then .branch ref name
      else .commit ((o.archive.commitNamed? name).getD name)
  match asked with
  | some name => (askedRef? o name).bind ofRef
  | none =>
    match (guessHead o usual).bind ofRef, o.head with
    | some h, _ => some h
    | none, some name => some (.commit name)
    | none, none =>
      let ref := (o.headRef.filter fun ref => (Text.after? branchStart ref).isSome).getD
        (branchStart ++ usual)
      some (.unborn ref)

/-! ### Settings -/

/-- The text of settings with more of them. -/
def withSettings (l : List (Config.Change × Config.Key × List Char)) (pieces : List Config.Piece) :
    List Config.Piece :=
  l.foldl (fun pieces (how, k, value) => (Config.set? how k value pieces).getD pieces) pieces

/-- The rule for the references that a clone remembers, if there is one. -/
def fetchRule? (plan : ClonePlan) (o : Offer) (remote usual : List Char) : Option (List Char) :=
  let top := Reference.remoteStart ++ remote ++ ['/']
  let single (ref : RefName) : List Char :=
    match Reference.branch? ref with
    | some name => '+' :: ref ++ ':' :: top ++ name
    | none => '+' :: ref ++ ':' :: ref
  if plan.isMirror then some "+refs/*:refs/*".toList
  else if plan.isBare then none
  else if plan.isSingle then
    match plan.branch with
    | some name => (askedRef? o name).map single
    | none => (guessHead o usual).map single
  else some ('+' :: branchStart ++ "*:".toList ++ top ++ ['*'])

/-- The settings that a clone has about its remote and its branch. -/
def remoteSettings (plan : ClonePlan) (o : Offer) (remote usual stored : List Char) (head : Head) :
    List (Config.Key × List Char) :=
  let branch? : Option RefName := match head with
    | .branch ref _ | .unborn ref => some ref
    | .commit _ => none
  [(Config.Key.inPart "remote" remote "url", stored)] ++
    (if plan.hasTags then [] else [(Config.Key.inPart "remote" remote "tagOpt", "--no-tags".toList)]) ++
    ((fetchRule? plan o remote usual).map (Config.Key.inPart "remote" remote "fetch", ·)).toList ++
    (if plan.isMirror then [(Config.Key.inPart "remote" remote "mirror", "true".toList)] else []) ++
    (match branch?.bind fun ref => (Reference.branch? ref).map (ref, ·) with
      | some (ref, name) => if plan.isBare then [] else
          [(Config.Key.inPart "branch" name "remote", remote),
            (Config.Key.inPart "branch" name "merge", ref)]
      | none => [])

/-! ### References -/

/-- The references that a clone remembers. -/
def ownRefs (plan : ClonePlan) (o : Offer) (remote usual : List Char) :
    List (RefName × ObjectName) :=
  let isTag (ref : RefName) : Bool := (Text.after? Reference.tagStart ref).isSome
  let top := Reference.remoteStart ++ remote ++ ['/']
  let single? := match plan.branch with
    | some name => askedRef? o name
    | none => guessHead o usual
  let wanted := o.refs.filter fun e => !plan.isSingle || isTag e.1 || some e.1 = single?
  let near := o.archive.closure ((wanted.filter fun e => !isTag e.1).map (·.2))
  wanted.filterMap fun (ref, name) =>
    if plan.isMirror then some (ref, name)
    else if isTag ref then
      let isNear := near.contains ((o.archive.peeled? name).getD name)
      if (plan.hasTags && (!plan.isSingle || isNear)) || (plan.isSingle && some ref = single?) then
        some (ref, name) else none
    else
      match Reference.branch? ref with
      | some branch => if plan.isBare then some (ref, name) else some (top ++ branch, name)
      | none => none

/-- The text of the file for many references. -/
def packedText (archive : Archive) (refs : List (RefName × ObjectName)) : List Char :=
  "# pack-refs with: peeled fully-peeled sorted \n".toList ++
    (refs.mergeSort fun a b => Reference.isInOrder a.1 b.1).flatMap fun (ref, name) =>
      let target := (archive.peeled? name).getD name
      name.toList ++ ' ' :: ref ++ '\n' ::
        if target = name then [] else '^' :: target.toList ++ ['\n']

/-! ### Cloning -/

/-- Where the parts of a clone are. -/
structure Target where
  kept : Place
  top : Option Place

/-- The directory for a clone, created if it is not there; nothing may be in it. -/
def createTarget? (s : Site) (path : String) : Option (Site × Place) :=
  match s.placeOf path with
  | .ok p =>
    if s.tree.at? p = some .dir && (s.tree.children p).isEmpty then some (s, p) else none
  | .error _ =>
    match s.createDirs path with
    | (s, true) => (s.placeOf path).toOption.map (s, ·)
    | (_, false) => none

/-- The site with the parts of a clone; what is cloned is kept in its own directory if there is
another one for the files. -/
def targets? (s : Site) (env : Environment) (plan : ClonePlan) : Option (Site × Target) := do
  let (s, dir) ← createTarget? s plan.path
  match plan.isBare, env.get? "GIT_WORK_TREE" with
  | true, _ => return (s, ⟨dir, none⟩)
  | false, none => return (s, ⟨dir ++ [keptName], some dir⟩)
  | false, some top =>
    let (s, top) ← if s.contains top then none else createTarget? s top
    return (s, ⟨dir, some top⟩)

/-- Writes the files of a clone, if they can be written. -/
def checkOut? (w : Workspace) (name : ObjectName) : Option Workspace := do
  w.advance? ⟨[], ← w.archive.snapshotOf? name, true⟩

/-- The clone with what counts in it. -/
def putHead? (w : Workspace) (address : List Char) (head : Head) : Option Workspace :=
  let reason := "clone: from " ++ stringOfLossy (Text.ofOctets address)
  match head with
  | .branch ref name =>
    let w := w.withTree (Reference.putReference w.tree w.location Reference.head ref)
    if w.location.top.isNone then some w else w.setRef? ref name reason
  | .commit name => some (w.detach name reason)
  | .unborn ref =>
    some (w.withTree (Reference.putReference w.tree w.location Reference.head ref))

/-- Makes a clone of what a depot shows, without files in the directory yet. -/
def make? (s : Site) (env : Environment) (settings : Config.Settings) (plan : ClonePlan)
    (o : Offer) (stored : List Char) (isNear : Bool) : Option (Workspace × Head) := do
  let usual := (Config.value? settings "init.defaultbranch").getD "master".toList
  let remote := (plan.remote.or (Config.value? settings "clone.defaultremotename")).getD
    "origin".toList
  let head ← headOf? o usual plan.branch
  let template := plan.template.getD <|
    match env.get? "GIT_TEMPLATE_DIR", Config.value? settings "init.templatedir" with
    | some path, _ => .directory (bytesOf path)
    | none, some path => .directory (Config.expanded env (Text.ofOctets path))
    | none, none => .usual
  let (s, target) ← targets? s env plan
  let s ← Creation.create? s target.kept
    { branch := usual, naming := o.naming, isBare := plan.isBare, template := template }
  let configPlace := target.kept ++ [configName]
  let pieces ← match s.tree.at? configPlace with
    | some (.file content) => Config.pieces? content
    | _ => none
  let pieces := withSettings (plan.settings.map fun (k, v) => (.more, k, v)) pieces
  let pieces := withSettings ((remoteSettings plan o remote usual stored head).map
    fun (k, v) => (.all, k, v)) pieces
  let s := { s with
    tree := s.tree.put configPlace (.file (Text.ofOctets (Config.textOf pieces))) }
  let own ← settingsOf? s.tree target.kept
  let said ← Config.ofVariables? env
  let person ← Config.ofPerson? s env
  let w : Workspace :=
    { site := s, env := env, location := ⟨target.kept, target.kept, target.top⟩
      settings := person ++ own ++ said }
  let refs := ownRefs plan o remote usual
  let tips := refs.map (·.2) ++ o.head.toList
  let empty : Archive := { naming := o.naming }
  let archive ← if isNear then some { o.archive with naming := o.naming }
    else empty.fetched? (match plan.depth with
      | some depth => o.archive.cutAt depth tips
      | none => o.archive) tips
  let w := w.withArchive archive
  let w := if refs.isEmpty then w
    else w.putKept (target.kept ++ [Reference.packedName])
      (.file (Text.ofOctets (packedText archive refs)))
  let top := Reference.remoteStart ++ remote ++ ['/']
  let w := match plan.isBare, (guessHead o usual).bind Reference.branch? with
    | false, some name =>
      if (refs.lookup (top ++ name)).isSome then
        w.withTree (Reference.putReference w.tree w.location (top ++ Reference.head) (top ++ name))
      else w
    | _, _ => w
  return (← putHead? w stored head, head)

/-- Clones a depot. The flag says whether everything went well; if files cannot be written, the clone
stays without them. -/
def run (s : Site) (env : Environment) (plan : ClonePlan) : Site × Bool :=
  let made : Option (Workspace × Head) := do
    let settings := (← Config.ofPerson? s env) ++ (← Config.ofVariables? env)
    let hashName := env.get? "GIT_DEFAULT_HASH"
    let isKnown := hashName.all fun name => (namingOf? name.toList).isSome
    let isWritable := (env.get? "GIT_QUARANTINE_PATH").isNone
    if !isKnown || !isWritable || !allowsFiles env settings then none
    else
      let (kept, stored) ← ofAddress? s env plan.address
      let source ← Workspace.atKept? s env kept
      let isNear := plan.isLocal && isPath stored && source.archive.cuts.isEmpty
      make? s env settings plan source.offer stored isNear
  match made with
  | none => (s, false)
  | some (w, head) =>
    let name? : Option ObjectName := match head with
      | .branch _ name | .commit name => some name
      | .unborn _ => none
    match plan.isBare || !plan.checksOut, name? with
    | false, some name =>
      match checkOut? w name with
      | some w => (w.site, true)
      | none => (w.site, false)
    | _, _ => (w.site, true)

end Clone

end GameFixes.Depot
