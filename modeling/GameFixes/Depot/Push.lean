import GameFixes.Depot.Fetch
import GameFixes.Depot.Work

/-!
# Pushing

References of a depot are given to another one, with all that belongs to them. The other one takes
them only if they go forward, unless that is forced, and does not let others change the branch that
counts in a directory with files.
-/

namespace GameFixes.Depot

/-- What is to be pushed. -/
structure PushPlan where
  remote : List Char
  asked : List RefRule := []
  isForced : Bool := false
  /-- Whether all branches are pushed, or all tags besides. -/
  withBranches : Bool := false
  withTags : Bool := false
  /-- Whether all references are pushed, and the others go. -/
  isMirror : Bool := false
  /-- Whether what is named goes away. -/
  isDeletion : Bool := false
  /-- Whether the branches follow what they were pushed to. -/
  follows : Bool := false
  isDry : Bool := false

/-- A reference that is given to another depot. -/
structure PushedRef where
  /-- The own reference, if it is one. -/
  source : Option RefName
  /-- Nothing, if the reference goes away. -/
  object : Option ObjectName
  target : RefName
  isForced : Bool
  deriving DecidableEq, Repr

namespace Workspace

/-- The own reference and the object that are meant by a name. -/
def pushSource? (w : Workspace) (name : List Char) : Option (Option RefName × ObjectName) :=
  match w.refNamed? name with
  | some (ref, object) =>
    -- A branch that counts is meant where its sign is given.
    let ref := if ref = Reference.head then (w.follow? ref).map (·.1) else some ref
    some (ref, object)
  | none => (w.revision? (String.ofList name)).map (none, ·)

/-- The reference of another depot that is meant by a name. -/
def pushTarget? (there : Workspace) (name : List Char) (source : Option RefName) :
    Option RefName :=
  let start := if (source.bind fun ref => Text.after? Reference.tagStart ref).isSome then
      some Reference.tagStart
    else if (source.bind Reference.branch?).isSome then some branchStart else none
  let ref? := if (Text.after? refStart name).isSome then some name
    else match there.refNamed? name with
      | some (ref, _) => some ref
      | none => start.map (· ++ name)
  ref?.filter Reference.isName

/-- What a rule says that is to be pushed. -/
def pushedBy? (w there : Workspace) (plan : PushPlan) (r : RefRule) : Option (List PushedRef) :=
  let isForced := r.isForced || plan.isForced
  if r.isNegated then some []
  else if plan.isDeletion then do
    let target ← pushTarget? there r.source none
    return [⟨none, none, target, isForced⟩]
  else
    match r.source, r.target with
    | [], some [] => some (w.references.filterMap fun (ref, name) =>
        if (Reference.branch? ref).isSome && (there.object? ref).isSome then
          some ⟨some ref, some name, ref, isForced⟩ else none)
    | [], some target => (pushTarget? there target none).map fun t => [⟨none, none, t, isForced⟩]
    | source, target =>
      if source.contains '*' then
        let target := target.getD source
        some (w.references.filterMap fun (ref, name) =>
          (RefRule.starIn? source ref).map fun star =>
            ⟨some ref, some name, RefRule.filled target star, isForced⟩)
      else do
        let (ref, object) ← w.pushSource? source
        let name ← (target.filter (· ≠ [])).or (ref.or none)
        let target ← pushTarget? there name ref
        return [⟨ref, some object, target, isForced⟩]

/-- What is pushed if nothing is said: the branch that counts, as a setting says. -/
def usualPush? (w : Workspace) (remote : List Char) : Option (List RefRule) := do
  let rule (source : RefName) (target : RefName) : RefRule := ⟨false, false, source, some target⟩
  match w.remoteValues remote "push" with
  | [] =>
    let usual := (w.setting? "push.default").getD "simple"
    match usual, w.branch? with
    | "nothing", _ => none
    | "matching", _ => return [⟨false, false, [], some []⟩]
    | _, none => none
    | usual, some branch =>
      let ref := branchStart ++ branch
      let isOwnRemote := w.remoteOf (some branch) = remote
      let followed := if (w.branchValue? branch "remote").isSome then w.followed? branch else none
      let isAutomatic := w.isOn "push.autosetupremote"
      if usual = "current" then return [rule ref ref]
      else if usual = "upstream" || usual = "tracking" then
        if isOwnRemote then followed.map fun t => [rule ref t] else none
      else if !isOwnRemote then return [rule ref ref]
      else
        match followed with
        | some t => if t = ref then return [rule ref ref] else none
        | none => if isAutomatic then return [rule ref ref] else none
  | l => l.mapM RefRule.ofText?

/-- Whether a depot lets others change a reference so. -/
def takes (there : Workspace) (p : PushedRef) : Bool :=
  let old := there.object? p.target
  let isHead := there.location.top.isSome && there.headRef = p.target
  let letsCurrent := match there.setting? "receive.denycurrentbranch" with
    | some text => text = "ignore" || text = "warn" || Config.truth? text.toList = some false
    | none => false
  let isBranch := (Reference.branch? p.target).isSome
  match p.object, old with
  | none, none => false
  | none, some _ => !there.isOn "receive.denydeletes" &&
      (there.headRef ≠ p.target || letsCurrent)
  | some _, none => Reference.isName p.target && there.fits p.target &&
      (!isHead || letsCurrent)
  | some new, some o =>
    let goesOn := match there.archive.commitNamed? o, there.archive.commitNamed? new with
      | some a, some b => there.archive.isAfter b a
      | _, _ => false
    (!isHead || letsCurrent) && (!isBranch || goesOn || !there.isOn "receive.denynonfastforwards")

/-- Whether a reference may be pushed without force. -/
def mayPush (w there : Workspace) (p : PushedRef) : Bool :=
  match p.object, there.object? p.target with
  | none, _ | _, none => true
  | some new, some old =>
    p.isForced || old = new ||
      ((Text.after? Reference.tagStart p.target).isNone &&
        match w.archive.commitNamed? old, w.archive.commitNamed? new with
        | some a, some b => w.archive.isAfter b a
        | _, _ => false)

/-- The depot that takes a reference. -/
def taking (there : Workspace) (p : PushedRef) : Workspace × Bool :=
  if p.object.isSome && there.object? p.target = p.object then (there, true)
  else if there.takes p then
    match p.object with
    | none => (there.eraseRef p.target, true)
    | some name =>
      match there.setRef? p.target name "push" with
      | some there => (there, true)
      | none => (there, false)
  else (there, false)

/-- Pushes to a remote. The flag says whether all was taken. -/
def push? (w : Workspace) (plan : PushPlan) : Option (Workspace × Bool) := do
  let kept ← w.remoteKept? plan.remote
  let there ← atKept? w.site w.env kept
  let all (starts : List (List Char)) : List RefRule := (w.references.map (·.1)).filterMap
    fun ref => if starts.any fun s => (Text.after? s ref).isSome then
      some ⟨false, false, ref, some ref⟩ else none
  let rules ← if plan.isMirror then some (all [refStart])
    else if plan.withBranches then some (all [branchStart])
    else if plan.asked.isEmpty then
      (if plan.withTags && (w.usualPush? plan.remote).isNone then some []
        else w.usualPush? plan.remote)
    else some plan.asked
  let rules := if plan.withTags then rules ++ all [Reference.tagStart] else rules
  let l := (← rules.mapM (w.pushedBy? there plan)).flatten
  let gone := if plan.isMirror then (there.references.filter fun e =>
    !l.any (·.target = e.1)).map fun e => (⟨none, none, e.1, true⟩ : PushedRef) else []
  let l := (l ++ gone).map fun p => if plan.isMirror then { p with isForced := true } else p
  if there.naming ≠ w.naming || plan.asked.any fun r => plan.isDeletion &&
      r.target.isSome then none
  else if plan.isDry then return (w, l.all (w.mayPush there))
  else
    let fine := l.filter (w.mayPush there)
    let archive ← there.archive.fetched? w.archive (fine.filterMap (·.object))
    let there := there.withArchive archive
    let (there, taken) := fine.foldl (fun (there, taken) p =>
      match there.taking p with
      | (there, true) => (there, p :: taken)
      | (there, false) => (there, taken)) (there, ([] : List PushedRef))
    let w := { w with site := { there.site with cwd := w.site.cwd } }
    let rules := (w.fetchRules? plan.remote).getD []
    -- What was taken is remembered as if it had been fetched.
    let w := taken.foldl (fun w p =>
      match rules.findSome? (·.image? p.target), p.object with
      | some ref, some name =>
        if w.object? ref = some name then w else (w.setRef? ref name "update by push").getD w
      | some ref, none => w.eraseRef ref
      | none, _ => w) w
    return (w, taken.length = l.length)

end Workspace

end GameFixes.Depot
