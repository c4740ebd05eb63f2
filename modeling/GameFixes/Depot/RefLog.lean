import GameFixes.Depot.Workspace

/-!
# Changing references

References change from one object to another, and a file says how each of them has changed, one change
a line. The branch that counts changes when commits are made.
-/

namespace GameFixes.Depot

/-- A change of a reference. -/
structure RefChange where
  old : ObjectName
  new : ObjectName
  who : Signature
  reason : String
  deriving DecidableEq, Repr

namespace RefChange

/-- The line that says a change. -/
def line (c : RefChange) : List Char :=
  Config.octetsOf (c.old ++ " " ++ c.new ++ " " ++ c.who.text ++ "\t" ++ c.reason ++ "\n")

/-- What a line says of a change: the objects and the reason. -/
def ofLine? (naming : Naming) (line : List Char) : Option (ObjectName × ObjectName × List Char) :=
  let old := line.take naming.length
  let new := (line.drop (naming.length + 1)).take naming.length
  if naming.isName old && naming.isName new then
    some (String.ofList old, String.ofList new, (line.dropWhile (· ≠ '\t')).drop 1)
  else none

end RefChange

namespace Workspace

/-! ### Looking -/

/-- What a reference leads to: the last reference on the way, and the object if there is one.
Nothing, if the way is broken. -/
def follow? (w : Workspace) (ref : RefName) : Option (RefName × Option ObjectName) :=
  Reference.follow? w.tree w.naming w.location Reference.stepLimit ref

/-- The object that a reference leads to. -/
def object? (w : Workspace) (ref : RefName) : Option ObjectName := (w.follow? ref).bind (·.2)

/-- The reference that counts: a branch, or `HEAD` itself if it says an object. -/
def headRef (w : Workspace) : RefName :=
  match Reference.read w.tree w.naming w.location Reference.head with
  | .points (.reference ref) => ref
  | _ => Reference.head

/-- The branch that counts, if one does. -/
def branch? (w : Workspace) : Option (List Char) := Reference.branch? w.headRef

/-- Whether no branch counts. -/
def isDetached (w : Workspace) : Bool := w.headRef = Reference.head

/-- The last commit. -/
def tip? (w : Workspace) : Option ObjectName := w.object? Reference.head

/-- Whether the history can be read. -/
def canRead (w : Workspace) : Bool :=
  match w.follow? Reference.head with
  | some (_, some name) => (w.archive.commitNamed? name).isSome
  | some (_, none) => true
  | none => false

/-- What the last commit holds. -/
def headSnapshot (w : Workspace) : Snapshot :=
  (w.tip?.bind w.archive.snapshotOf?).getD []

/-- All references with the objects that they lead to, as far as those are there. -/
def references (w : Workspace) : List (RefName × ObjectName) :=
  let archive := w.archive
  (Reference.all w.tree w.naming w.location).filterMap fun ref =>
    ((w.object? ref).filter archive.has).map (ref, ·)

/-- How a reference has changed, the last change first. -/
def changesOf (w : Workspace) (ref : RefName) : List (ObjectName × ObjectName × List Char) :=
  match w.tree.at? (Reference.logPlace w.location ref) with
  | some (.file content) =>
    ((Text.splitOn '\n' (Text.octets content)).filterMap
      (RefChange.ofLine? w.naming)).reverse
  | _ => []

/-! ### Changing -/

/-- Whether it is written down how a reference changes. -/
def isLogged (w : Workspace) (ref : RefName) : Bool :=
  let isUsual := ref = Reference.head ||
    ["refs/heads/", "refs/remotes/", "refs/notes/"].any fun start =>
      (Text.after? start.toList ref).isSome
  match (w.setting? "core.logallrefupdates").map String.toLower with
  | some "always" => true
  | some _ => isUsual && w.isOn "core.logallrefupdates"
  | none => isUsual && w.location.top.isSome

/-- Writes down a change of a reference. -/
def noteChange (w : Workspace) (ref : RefName) (old new : ObjectName) (reason : String) :
    Workspace :=
  let p := Reference.logPlace w.location ref
  let line := RefChange.line ⟨old, new, w.committer, reason⟩
  match w.tree.at? p with
  | some (.file content) => w.putKept p (.file (content ++ Text.ofOctets line))
  | _ => if w.isLogged ref then
      w.withTree ((w.tree.clear p).plant p (.file (Text.ofOctets line))) else w

/-- Whether a reference can be written beside the others. -/
def fits (w : Workspace) (ref : RefName) : Bool :=
  Reference.fits (Reference.all w.tree w.naming w.location) ref

/-- Lets a reference say an object, through the references that it leads to. -/
def setRef? (w : Workspace) (ref : RefName) (name : ObjectName) (reason : String) :
    Option Workspace := do
  let (target, old) ← w.follow? ref
  let old := old.getD w.naming.zero
  if w.fits target && (w.env.get? "GIT_QUARANTINE_PATH").isNone &&
      w.isUnlocked (Reference.place w.location target) then
    let after := w.withTree (Reference.putObject w.tree w.location target name)
    let after := after.noteChange target old name reason
    let after := if ref ≠ target then after.noteChange ref old name reason
      else if target = w.headRef && target ≠ Reference.head then
        after.noteChange Reference.head old name reason
      else after
    return after
  else none

/-- Lets the branch that counts say a commit, or `HEAD` if none does. -/
def setTip? (w : Workspace) (name : ObjectName) (reason : String) : Option Workspace :=
  w.setRef? Reference.head name reason

/-- Lets no branch count, at a commit. -/
def detach (w : Workspace) (name : ObjectName) (reason : String) : Workspace :=
  let old := w.tip?.getD w.naming.zero
  let after := w.withTree (Reference.putObject w.tree w.location Reference.head name)
  after.noteChange Reference.head old name reason

/-- Lets a branch count. -/
def attach (w : Workspace) (ref : RefName) (reason : String) : Workspace :=
  let old := w.tip?
  let after := w.withTree (Reference.putReference w.tree w.location Reference.head ref)
  match old, after.tip? with
  | _, some new => after.noteChange Reference.head (old.getD w.naming.zero) new reason
  | _, none => after

/-- Takes a reference away. -/
def eraseRef (w : Workspace) (ref : RefName) : Workspace :=
  w.withTree (Reference.erase w.tree w.location ref)

end Workspace

end GameFixes.Depot
