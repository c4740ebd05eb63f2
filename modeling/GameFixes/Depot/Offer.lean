import GameFixes.Depot.Revision

/-!
# What depots show each other

A depot shows others its references and the objects that those lead to, unless settings hide them.
Whether others may be looked at is said by settings and variables.
-/

namespace GameFixes.Depot

/-- What a depot shows to another one. -/
structure Offer where
  naming : Naming
  archive : Archive
  /-- The object of `HEAD`. -/
  head : Option ObjectName
  /-- The reference that `HEAD` stands for, even if it does not exist yet. -/
  headRef : Option RefName
  refs : List (RefName × ObjectName)

namespace Archive

/-! ### All that belongs to an object -/

/-- The objects that an object names. -/
def links (a : Archive) (name : ObjectName) : List ObjectName :=
  match a.get? name with
  | some (.commit c) => c.tree :: a.parents name
  | some (.tree items) => (items.filter (·.2.kind ≠ .nested)).map (·.2.name)
  | some (.tag t) => [t.target]
  | some (.blob _) | none => []

/-- The objects that can be reached from some: those of `todo`, and those that were `seen`. -/
def reachAll (a : Archive) : (fuel : Nat) → (todo seen : List ObjectName) → List ObjectName
  | 0, _, seen => seen
  | _ + 1, [], seen => seen
  | fuel + 1, name :: todo, seen =>
    if seen.contains name then a.reachAll fuel todo seen
    else a.reachAll fuel (a.links name ++ todo) (name :: seen)

/-- Some objects and all that belongs to them. -/
def closure (a : Archive) (names : List ObjectName) : List ObjectName :=
  let count := a.objects.foldl (fun n e => n + (a.links e.1).length) 0
  a.reachAll (names.length + count + 1) names []

/-- The archive with some objects of another one and all that belongs to them; nothing, if something
of it is not there. -/
def fetched? (a b : Archive) (names : List ObjectName) : Option Archive :=
  let all := b.closure names
  if all.all fun name => b.has name || a.has name then
    let new := b.objects.filter fun e => all.contains e.1 && (a.objects.lookup e.1).isNone
    some { a with
      objects := a.objects ++ new
      cuts := (a.cuts ++ b.cuts.filter all.contains).eraseDups }
  else none

/-- The commits up to a number of steps from some. -/
def within (a : Archive) : (steps : Nat) → List ObjectName → List ObjectName
  | 0, names => names
  | n + 1, names => names ++ a.within n (names.flatMap a.parents)

/-- The archive in which the history of some commits is cut off after a number of them. -/
def cutAt (a : Archive) (depth : Nat) (names : List ObjectName) : Archive :=
  let near := (a.within (depth - 1) (names.filterMap a.commitNamed?)).eraseDups
  let ends := near.filter fun name => (a.parents name).any fun p => !near.contains p
  { a with cuts := (a.cuts ++ ends).eraseDups }

end Archive

/-! ### Variables and settings -/

/-- The variables that are about one depot only. -/
def ownVariables : List String :=
  ["ALTERNATE_OBJECT_DIRECTORIES", "CONFIG", "CONFIG_PARAMETERS", "CONFIG_COUNT",
    "OBJECT_DIRECTORY", "DIR", "WORK_TREE", "IMPLICIT_WORK_TREE", "GRAFT_FILE", "INDEX_FILE",
    "NO_REPLACE_OBJECTS", "REPLACE_REF_BASE", "PREFIX", "SHALLOW_FILE", "COMMON_DIR"].map
    ("GIT_" ++ ·)

/-- The variables that also count in another depot. -/
def commonVariables (env : Environment) : Environment :=
  TextMap.ofList (env.entries.filter fun e => !ownVariables.contains e.1)

/-- Whether files of others may be looked at. -/
def allowsFiles (env : Environment) (settings : Config.Settings) : Bool :=
  match env.get? "GIT_ALLOW_PROTOCOL" with
  | some list => (Text.splitOn ':' list.toList).contains "file".toList
  | none =>
    let said := (Config.value? settings "protocol.file.allow").or
      (Config.value? settings "protocol.allow")
    let byUser := !(env.get? "GIT_PROTOCOL_FROM_USER").any fun v =>
      Config.truth? v.toList = some false
    match said.map (String.ofList ∘ List.map Char.toLower) with
    | some "always" => true
    | some "user" | none => byUser
    | some _ => false

/-- The patterns for what is not shown, the one that counts most first. -/
def hiddenPatterns (settings : Config.Settings) : List (List Char) :=
  (settings.filterMap fun e =>
    if e.1 = "transfer.hiderefs".toList || e.1 = "uploadpack.hiderefs".toList then e.2
    else none).reverse

/-- Whether a reference is not shown. A sign takes a pattern back, and another one is for the full
name; a start of a name stands for all in it. -/
def isHiddenBy (patterns : List (List Char)) (ref full : RefName) : Bool :=
  let verdict? (pattern : List Char) : Option Bool :=
    let (isNegated, pattern) := match pattern with
      | '!' :: rest => (true, rest)
      | rest => (false, rest)
    let (subject, pattern) := match pattern with
      | '^' :: rest => (full, rest)
      | rest => (ref, rest)
    let pattern := (pattern.reverse.dropWhile (· = '/')).reverse
    match Text.after? pattern subject with
    | some [] | some ('/' :: _) => some (!isNegated)
    | _ => none
  (patterns.findSome? verdict?).getD false

namespace Workspace

/-- The depot that is kept in a directory, if its settings can be read; `env` are the variables of
the one who looks at it. -/
def atKept? (s : Site) (env : Environment) (kept : Place) : Option Workspace := do
  let env := commonVariables env
  let shared := sharedOf s env kept
  let own ← settingsOf? s.tree shared
  let person ← Config.ofPerson? s env
  let settings := person ++ own
  let top := if Config.isOn settings "core.bare" then none
    else if kept.getLast? = some keptName then some kept.dropLast else none
  return { site := { s with cwd := kept }, env := env, location := ⟨kept, shared, top⟩
           settings := settings }

/-- What all references of a name space start with. -/
def spaceStart (env : Environment) : List Char :=
  match (env.get? "GIT_NAMESPACE").filter (· ≠ "") with
  | some name =>
    ((Text.splitOn '/' name.toList).filter (· ≠ [])).flatMap fun part =>
      "refs/namespaces/".toList ++ part ++ ['/']
  | none => []

/-- What a depot shows. -/
def offer (w : Workspace) : Offer :=
  let start := spaceStart w.env
  let patterns := hiddenPatterns w.settings
  let archive := w.archive
  let refs := w.references.filterMap fun (full, name) =>
    match Text.after? start full with
    | some ref => if isHiddenBy patterns ref full then none else some (ref, name)
    | none => none
  let head := start ++ Reference.head
  { naming := w.naming
    archive := archive
    head := if isHiddenBy patterns Reference.head head then none
      else (w.object? head).filter archive.has
    headRef := match Reference.read w.tree w.naming w.location head with
      | .points (.reference _) => (w.follow? head).bind fun (full, _) => Text.after? start full
      | _ => none
    refs := refs }

/-- The place where a remote is kept, by its name or address. -/
def remoteKept? (w : Workspace) (remote : List Char) : Option Place :=
  if allowsFiles w.env w.settings then
    ofStoredAddress? w.site (w.location.top.getD w.location.kept) (w.addressOf remote)
  else none

/-- What a remote shows. -/
def offerOf? (w : Workspace) (remote : List Char) : Option Offer :=
  ((w.remoteKept? remote).bind (atKept? w.site w.env)).map offer

end Workspace

end GameFixes.Depot
