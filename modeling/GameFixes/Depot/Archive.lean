import GameFixes.Depot.Object
import GameFixes.Tree.Node

/-!
# Archives

The objects that a depot keeps, by their names, and the history that its commits make up. A snapshot
is a tree laid out flat: what is at which place.
-/

namespace GameFixes.Depot

/-- The objects of a depot. -/
structure Archive where
  naming : Naming := .short
  objects : List (ObjectName × Object) := []
  /-- The commits at which the history is cut off: what they come after is not kept. -/
  cuts : List ObjectName := []
  deriving DecidableEq, Repr

/-- What is at which place. -/
abbrev Snapshot := List (Place × Item)

namespace Snapshot

/-- What is at a place in a snapshot. -/
def at? (s : Snapshot) (p : Place) : Option Item := s.lookup p

/-- Whether two snapshots hold the same. -/
def same (s t : Snapshot) : Bool := s.all t.contains && t.all s.contains

/-- Whether something is at a place in a directory. -/
def hasUnder (s : Snapshot) (p : Place) : Bool := s.any fun e => Tree.isUnder p e.1

end Snapshot

namespace Archive

/-! ### Objects -/

/-- The tree without items, which every depot knows. -/
def emptyTree : Object := .tree []

/-- The object with a name. -/
def get? (a : Archive) (name : ObjectName) : Option Object :=
  match a.objects.lookup name with
  | some o => some o
  | none => if name = emptyTree.nameBy a.naming then some emptyTree else none

/-- Whether there is an object with a name. -/
def has (a : Archive) (name : ObjectName) : Bool := (a.get? name).isSome

/-- The archive with an object, and its name. -/
def put (a : Archive) (o : Object) : Archive × ObjectName :=
  let name := o.nameBy a.naming
  if (a.objects.lookup name).isSome then (a, name)
  else ({ a with objects := (name, o) :: a.objects }, name)

/-- The archive with some objects. -/
def putAll (a : Archive) (l : List Object) : Archive := l.foldl (fun a o => (a.put o).1) a

/-- The content with a name. -/
def blob? (a : Archive) (name : ObjectName) : Option (List UInt8) :=
  match a.get? name with
  | some (.blob content) => some content
  | _ => none

/-- The commit with a name. -/
def commit? (a : Archive) (name : ObjectName) : Option Commit :=
  match a.get? name with
  | some (.commit c) => some c
  | _ => none

/-- The object that a tag stands for, through tags of tags. -/
def peel? (a : Archive) : (fuel : Nat) → ObjectName → Option ObjectName
  | 0, _ => none
  | fuel + 1, name =>
    match a.get? name with
    | some (.tag t) => a.peel? fuel t.target
    | some _ => some name
    | none => none

/-- The object that is meant by a name: what is tagged, if it is a tag. -/
def peeled? (a : Archive) (name : ObjectName) : Option ObjectName :=
  a.peel? (a.objects.length + 1) name

/-- The commit that is meant by a name. -/
def commitNamed? (a : Archive) (name : ObjectName) : Option ObjectName :=
  (a.peeled? name).filter fun n => (a.commit? n).isSome

/-! ### Trees -/

/-- A tree laid out flat, down to a depth. -/
def flatten? (a : Archive) : (depth : Nat) → ObjectName → Option Snapshot
  | 0, _ => none
  | depth + 1, name =>
    match a.get? name with
    | some (.tree items) => do
      let parts ← items.mapM fun (e : FileName × Item) =>
        if e.2.kind = .directory then
          (a.flatten? depth e.2.name).map fun (l : Snapshot) => l.map fun f => (e.1 :: f.1, f.2)
        else some [([e.1], e.2)]
      return parts.flatten
    | _ => none

/-- The snapshot that a tree is. -/
def snapshot? (a : Archive) (tree : ObjectName) : Option Snapshot :=
  a.flatten? (a.objects.length + 1) tree

/-- The tree that is meant by a name: that of the commit, if it is one. -/
def treeNamed? (a : Archive) (name : ObjectName) : Option ObjectName :=
  match (a.peeled? name).bind fun n => (a.get? n).map (n, ·) with
  | some (_, .commit c) => if a.has c.tree then some c.tree else none
  | some (n, .tree _) => some n
  | _ => none

/-- The snapshot of a commit, or of what is meant by a name. -/
def snapshotOf? (a : Archive) (name : ObjectName) : Option Snapshot :=
  (a.treeNamed? name).bind a.snapshot?

/-- The key by which the items of a tree are ordered: directories as if a slash stood behind. -/
def sortKey (e : FileName × Item) : FileName := if e.2.kind = .directory then e.1 ++ [0x2F] else e.1

/-- The archive with the trees that a snapshot lays out flat, and the name of the whole. -/
def putTree (a : Archive) : (depth : Nat) → Snapshot → Archive × ObjectName
  | 0, _ => a.put emptyTree
  | depth + 1, s =>
    let names := (s.filterMap fun e => e.1.head?).eraseDups
    let (a, items) := names.foldl (fun (a, items) name =>
      let inside := s.filterMap fun (p, item) =>
        match p with
        | n :: q => if n = name then some (q, item) else none
        | [] => none
      match inside.lookup [] with
      | some item => (a, (name, item) :: items)
      | none =>
        let (a, tree) := a.putTree depth inside
        (a, (name, ⟨.directory, tree⟩) :: items)) (a, ([] : List (FileName × Item)))
    a.put (.tree (items.mergeSort fun x y => sortKey x ≤ sortKey y))

/-- The archive with a snapshot as a tree, and the name of that. -/
def putSnapshot (a : Archive) (s : Snapshot) : Archive × ObjectName :=
  a.putTree (s.foldl (fun n e => max n e.1.length) 0 + 1) s

/-! ### History -/

/-- The commits that a commit comes after, as far as they are kept. -/
def parents (a : Archive) (name : ObjectName) : List ObjectName :=
  if a.cuts.contains name then [] else ((a.commit? name).map (·.parents)).getD []

/-- The commits that can be reached from some: those of `todo`, and those that were `seen`. -/
def reach (a : Archive) : (fuel : Nat) → (todo seen : List ObjectName) → List ObjectName
  | 0, _, seen => seen
  | _ + 1, [], seen => seen
  | fuel + 1, name :: todo, seen =>
    if seen.contains name then a.reach fuel todo seen
    else a.reach fuel (a.parents name ++ todo) (name :: seen)

/-- Some commits and all that they come after. -/
def ancestors (a : Archive) (names : List ObjectName) : List ObjectName :=
  let links := a.objects.foldl (fun n e => n + (a.parents e.1).length) 0
  a.reach (names.length + links + 1) names []

/-- Whether a commit comes after another one, or is it. -/
def isAfter (a : Archive) (name old : ObjectName) : Bool := (a.ancestors [name]).contains old

/-- The last commits that two commits have in common. -/
def mergeBases (a : Archive) (x y : ObjectName) : List ObjectName :=
  let behind := a.ancestors [y]
  let common := (a.ancestors [x]).filter behind.contains
  let covered := a.ancestors (common.flatMap a.parents)
  common.filter fun name => !covered.contains name

end Archive

end GameFixes.Depot
