import GameFixes.Depot.Offer

/-!
# Fetching

A depot takes over what another one shows: the objects, and what its references are, under names of
its own. A reference of its own only goes forward, unless that is forced. A file says what was
fetched and what of it is to be merged.
-/

namespace GameFixes.Depot

/-- Which tags are fetched. -/
inductive TagChoice
  /-- Those of what is fetched anyway. -/
  | following
  | all
  | none
  deriving DecidableEq, Repr

/-- What is to be fetched. -/
structure FetchPlan where
  remote : List Char
  /-- What is asked for besides what the settings say; if there is something, that alone is fetched. -/
  asked : List RefRule := []
  tags : Option TagChoice := none
  isForced : Bool := false
  /-- Whether references are dropped that the remote does not have any more. -/
  prunes : Option Bool := none
  /-- Whether what was fetched before is still said. -/
  appends : Bool := false
  /-- Whether the branch that counts may change. -/
  changesHead : Bool := false
  depth : Option Nat := none
  /-- Whether nothing is written. -/
  isDry : Bool := false

/-- What becomes of something that was fetched. -/
inductive FetchUse
  | merge
  | remember
  /-- Nobody is told about it. -/
  | silent
  deriving DecidableEq, Repr

/-- A reference of a remote that is fetched. -/
structure FetchedRef where
  source : RefName
  object : ObjectName
  /-- The reference that remembers it. -/
  target : Option RefName := none
  isForced : Bool := false
  use : FetchUse := .remember
  deriving DecidableEq, Repr

namespace Offer

/-- All that a depot shows by name. -/
def named (o : Offer) : List (RefName × ObjectName) :=
  (o.head.map (Reference.head, ·)).toList ++ o.refs

/-- The reference that is meant by a name, which may be a part of it or that of an object. -/
def meant? (o : Offer) (name : List Char) : Option (RefName × ObjectName) :=
  let found := Revision.shelves.findSome? fun (before, behind) =>
    let ref := before ++ name ++ behind
    (o.named.lookup ref).map (ref, ·)
  match found with
  | some e => some e
  | none =>
    if o.naming.isName name && o.archive.has (String.ofList name) then
      some (name, String.ofList name)
    else none

end Offer

/-- The full name that somebody gives to a reference of their own. -/
def ownRefName (name : List Char) : RefName :=
  if (Text.after? refStart name).isSome then name
  else if ["heads/", "tags/", "remotes/"].any fun start =>
      (Text.after? start.toList name).isSome then refStart ++ name
  else branchStart ++ name

/-- Whether a branch follows a reference of its remote that goes by a name. -/
def isFollowedAs (followed ref : RefName) : Bool :=
  Revision.shelves.any fun (before, behind) => ref = before ++ followed ++ behind

namespace Workspace

/-! ### What is fetched -/

/-- What a rule fetches; a name that it gives must be there. -/
def fetchedBy? (o : Offer) (r : RefRule) (use : FetchUse) : Option (List FetchedRef) :=
  if r.isNegated then some []
  else if r.source.contains '*' then
    some (o.refs.filterMap fun (ref, name) =>
      if r.covers ref then some ⟨ref, name, r.image? ref, r.isForced, use⟩ else none)
  else
    let source := if r.source = [] then Reference.head else r.source
    (o.meant? source).map fun (ref, name) =>
      let target := (r.target.filter (· ≠ [])).map ownRefName
      [⟨ref, name, target, r.isForced, use⟩]

/-- What the rules of a remote leave out is not fetched, and nothing is fetched twice. -/
def withoutExcluded (rules : List RefRule) (l : List FetchedRef) : List FetchedRef :=
  (l.filter fun f => !rules.any fun r => r.isNegated && r.covers f.source).eraseDups

/-- What is fetched as the settings say. The branch that counts says what is to be merged. -/
def usualFetch? (w : Workspace) (o : Offer) (remote : List Char) (rules : List RefRule) :
    Option (List FetchedRef) := do
  let branch := w.branch?
  let followed := (branch.filter fun b => w.branchValue? b "remote" = some remote).bind w.followed?
  if rules.isEmpty && followed.isNone then
    let name ← o.head
    return [⟨Reference.head, name, none, false, .merge⟩]
  else
    let parts ← rules.mapM fun r => fetchedBy? o r .remember
    let l := withoutExcluded rules parts.flatten
    match followed with
    | none =>
      let isSingle := rules.head?.any fun r => !r.source.contains '*'
      -- Without a branch that follows one, a single reference is what is meant.
      return if isSingle then l.mapIdx fun i f => if i = 0 then { f with use := .merge } else f
        else l
    | some ref =>
      if l.any fun f => isFollowedAs ref f.source then
        return l.map fun f => if isFollowedAs ref f.source then { f with use := .merge } else f
      else
        let more := (o.meant? ref).map fun (source, name) =>
          (⟨source, name, none, false, .merge⟩ : FetchedRef)
        return l ++ more.toList

/-- What is fetched as somebody asks; what the settings say is remembered too. -/
def askedFetch? (o : Offer) (asked rules : List RefRule) : Option (List FetchedRef) := do
  let parts ← asked.mapM fun r => fetchedBy? o r .merge
  let l := withoutExcluded asked parts.flatten
  let more := l.filterMap fun f => (rules.findSome? fun r =>
    (r.image? f.source).map fun target =>
      (⟨f.source, f.object, some target, r.isForced, .silent⟩ : FetchedRef))
  return l ++ withoutExcluded rules more

/-- The tags of what is fetched that are not there yet. -/
def newTags (w : Workspace) (o : Offer) (l : List FetchedRef) : List FetchedRef :=
  let coming := o.archive.closure (l.map (·.object))
  let archive := w.archive
  o.refs.filterMap fun (ref, name) =>
    let target := (o.archive.peeled? name).getD name
    if (Text.after? Reference.tagStart ref).isSome && (w.object? ref).isNone &&
        !(l.any (·.source = ref)) && (coming.contains target || archive.has target) then
      some ⟨ref, name, some ref, false, .remember⟩
    else none

/-- All tags. -/
def allTags (o : Offer) (l : List FetchedRef) : List FetchedRef :=
  o.refs.filterMap fun (ref, name) =>
    if (Text.after? Reference.tagStart ref).isSome && !(l.any (·.source = ref)) then
      some ⟨ref, name, some ref, false, .remember⟩
    else none

/-! ### Remembering -/

/-- Whether a reference may become what was fetched. -/
def mayUpdate (w : Workspace) (f : FetchedRef) (ref : RefName) : Bool :=
  match w.object? ref with
  | none => true
  | some old =>
    f.isForced || old = f.object ||
      (!(Text.after? Reference.tagStart ref).isSome &&
        match w.archive.commitNamed? old, w.archive.commitNamed? f.object with
        | some a, some b => w.archive.isAfter b a
        | _, _ => false)

/-- Remembers what was fetched, as far as that may be; the flag says whether all was. -/
def remember (w : Workspace) (l : List FetchedRef) : Workspace × Bool :=
  l.foldl (fun (w, isFine) f =>
    match f.target with
    | none => (w, isFine)
    | some ref =>
      if w.object? ref = some f.object then (w, isFine)
      else if w.mayUpdate f ref && Reference.isName ref then
        match w.setRef? ref f.object "fetch: update" with
        | some w => (w, isFine)
        | none => (w, false)
      else (w, false)) (w, true)

/-- The address of a remote for people. -/
def shownAddress (address : List Char) : List Char :=
  let s := (address.reverse.dropWhile (· = '/')).reverse
  match Text.after? ".git".toList.reverse s.reverse with
  | some rest => if 1 ≤ rest.length then rest.reverse else s
  | none => s

/-- What a reference is called for people. -/
def kindText (ref : RefName) : List Char :=
  match Reference.branch? ref, Text.after? Reference.tagStart ref,
      Text.after? Reference.remoteStart ref with
  | some name, _, _ => "branch '".toList ++ name ++ "' of ".toList
  | none, some name, _ => "tag '".toList ++ name ++ "' of ".toList
  | none, none, some name => "remote-tracking branch '".toList ++ name ++ "' of ".toList
  | none, none, none =>
    if ref = Reference.head then [] else '\'' :: ref ++ "' of ".toList

/-- The line that says what was fetched. -/
def fetchLine (address : List Char) (f : FetchedRef) : List Char :=
  f.object.toList ++ '\t' :: (if f.use = .merge then [] else "not-for-merge".toList) ++
    '\t' :: kindText f.source ++ shownAddress address ++ ['\n']

/-- The name of the file that says what was fetched. -/
def fetchedName : String := "FETCH_HEAD"

/-- Writes down what was fetched: first what is to be merged. -/
def noteFetched (w : Workspace) (plan : FetchPlan) (l : List FetchedRef) : Workspace :=
  let lines := ((l.filter (·.use = .merge)) ++ l.filter (·.use = .remember)).flatMap
    (fetchLine (w.addressOf plan.remote))
  let before := if plan.appends then
    ((w.stateText? fetchedName).map Config.octetsOf).getD [] else []
  w.putKept (w.statePlace fetchedName) (.file (Text.ofOctets (before ++ lines)))

/-- Drops the references that remember what the remote does not have any more. -/
def prune (w : Workspace) (o : Offer) (rules : List RefRule) : Workspace :=
  let isLeft (ref : RefName) : Bool := rules.any fun r =>
    o.refs.any fun (source, _) => r.image? source = some ref
  let isMeant (ref : RefName) : Bool := rules.any fun r =>
    !r.isNegated && r.target.any fun target => (RefRule.starIn? target ref).isSome
  (w.references.filter fun e => isMeant e.1 && !isLeft e.1).foldl (fun w e => w.eraseRef e.1) w

/-! ### Fetching -/

/-- The tags that are fetched from a remote, by what is asked and the settings. -/
def tagChoice (w : Workspace) (plan : FetchPlan) : TagChoice :=
  let said := (w.remoteValues plan.remote "tagopt").getLast?
  match plan.tags with
  | some choice => choice
  | none =>
    if said = some "--tags".toList then .all
    else if said = some "--no-tags".toList then .none
    else .following

/-- Fetches from a remote. Nothing comes if it cannot be reached or lacks what is asked for; otherwise
the flag says whether everything could be remembered. -/
def fetch? (w : Workspace) (plan : FetchPlan) : Option (Workspace × Bool) := do
  let rules ← w.fetchRules? plan.remote
  let o ← w.offerOf? plan.remote
  if o.naming ≠ w.naming then none
  else
    let l ← if plan.asked.isEmpty then w.usualFetch? o plan.remote rules
      else askedFetch? o plan.asked rules
    let followsTags := if plan.asked.isEmpty then rules.any fun r => r.target.any (· ≠ [])
      else plan.asked.any fun r => r.target.any (· ≠ [])
    let l := match w.tagChoice plan with
      | .all => l ++ allTags o l
      | .none => l
      | .following => if followsTags then l ++ w.newTags o l else l
    let l := if plan.isForced then l.map fun f => { f with isForced := true } else l
    let isRefused := !plan.changesHead && w.location.top.isSome &&
      l.any fun f => f.target = some w.headRef
    if isRefused then none
    else
      let source := match plan.depth with
        | some depth => o.archive.cutAt depth (l.map (·.object))
        | none => o.archive
      let archive ← w.archive.fetched? source (l.map (·.object))
      if plan.isDry then return (w, true)
      else
        let w := w.withArchive archive
        let prunes := match plan.prunes, (w.remoteValues plan.remote "prune").getLast? with
          | some prunes, _ => prunes
          | none, some said => Config.truth? said = some true
          | none, none => w.isOn "fetch.prune"
        let w := if prunes then
          w.prune o (if plan.asked.isEmpty then rules else plan.asked) else w
        let w := w.noteFetched plan l
        return w.remember l

end Workspace

end GameFixes.Depot
