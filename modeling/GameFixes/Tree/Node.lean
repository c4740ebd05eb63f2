/-!
# File trees

Directories, files and symbolic links by their places, and files as their bytes outside a tree.
Names are any bytes. The root is a directory in every tree, and putting a node changes what stands
at its place (`Tree.at?_put`).
-/

namespace GameFixes

/-- The bytes of a name. -/
abbrev FileName := List UInt8

/-- The names that lead from the root to a place, the outermost first. -/
abbrev Place := List FileName

/-- What stands at a place. -/
inductive Node
  | dir
  | file (content : List UInt8)
  /-- A file in a form of which nobody can make a text. -/
  | sealed (content : List UInt8)
  | link (target : List UInt8)
  deriving DecidableEq, Repr

/-- Whether this is a file. -/
def Node.isFile : Node → Bool
  | .file _ | .sealed _ => true
  | .dir | .link _ => false

/-- A file tree: what stands at which place, each place at most once. -/
structure Tree where
  nodes : List (Place × Node) := []
  deriving DecidableEq, Repr

namespace Tree

/-- What stands at a place. -/
def at? (t : Tree) (p : Place) : Option Node :=
  if p = [] then some .dir else t.nodes.lookup p

/-- Puts a node at a place in a list, instead of what stands there. -/
def putIn (p : Place) (n : Node) : List (Place × Node) → List (Place × Node)
  | [] => [(p, n)]
  | (q, m) :: l => if q = p then (p, n) :: l else (q, m) :: putIn p n l

/-- The tree with a node at a place, instead of what stands there. -/
def put (t : Tree) (p : Place) (n : Node) : Tree := ⟨putIn p n t.nodes⟩

/-- The tree without what stands at a place. -/
def erase (t : Tree) (p : Place) : Tree := ⟨t.nodes.filter (·.1 ≠ p)⟩

/-- The names in a directory and what stands there, in no order that matters. -/
def children (t : Tree) (p : Place) : List (FileName × Node) :=
  t.nodes.filterMap fun (q, n) =>
    if q.dropLast = p then q.getLast?.map (·, n) else none

@[simp] theorem at?_root (t : Tree) : t.at? [] = some .dir := rfl

theorem lookup_putIn (p q : Place) (n : Node) (l : List (Place × Node)) :
    (putIn p n l).lookup q = if q = p then some n else l.lookup q := by
  induction l with
  | nil => by_cases h : q = p <;> simp [putIn, List.lookup_cons, h, beq_eq_false_iff_ne.2]
  | cons e l ih =>
    obtain ⟨r, m⟩ := e
    by_cases hr : r = p
    · subst hr
      by_cases h : q = r <;> simp [putIn, List.lookup_cons, h, beq_eq_false_iff_ne.2]
    · by_cases h : q = r
      · subst h
        simp [putIn, hr]
      · simp [putIn, hr, List.lookup_cons, beq_eq_false_iff_ne.2 h, ih]

/-- Putting a node changes what stands at its place and nothing else. -/
theorem at?_put (t : Tree) (p q : Place) (n : Node) (h : p ≠ []) :
    (t.put p n).at? q = if q = p then some n else t.at? q := by
  unfold at? put
  rw [lookup_putIn]
  by_cases hq : q = []
  · subst hq
    simp [h.symm]
  · simp [hq]

end Tree

end GameFixes

namespace GameFixes.Tree

/-! ### Branches

What stands under a place, as seen from there, and how nodes come together with the directories
around them. -/

/-- Whether a place lies under another one. -/
def isUnder (outer p : Place) : Bool := outer.isPrefixOf p && outer.length < p.length

/-- What stands under a place, by the places as seen from there. -/
def under (t : Tree) (d : Place) : List (Place × Node) :=
  t.nodes.filterMap fun (p, n) => if isUnder d p then some (p.drop d.length, n) else none

/-- The tree with a directory at a place, unless something stands there. -/
def ensureDir (t : Tree) (p : Place) : Tree := if (t.at? p).isSome then t else t.put p .dir

/-- The places around a place, the outermost first, without the root and the place itself. -/
def around (p : Place) : List Place := (List.range (p.length - 1)).map fun n => p.take (n + 1)

/-- The tree with a node at a place and directories around it. -/
def plant (t : Tree) (p : Place) (n : Node) : Tree := ((around p).foldl ensureDir t).put p n

/-- The tree without everything under a place. -/
def clear (t : Tree) (d : Place) : Tree := ⟨t.nodes.filter fun e => !isUnder d e.1⟩

end GameFixes.Tree

namespace GameFixes.Node

/-! ### Stored files

What is in a sealed file stands behind a mark. -/

/-- What the bytes of a sealed file start with. -/
def sealMark : List UInt8 := [0x00, 0x53, 0x45, 0x41, 0x4C, 0x00]

/-- The bytes of a file. -/
def storedBytes? : Node → Option (List UInt8)
  | .file content => some content
  | .sealed content => some (sealMark ++ content)
  | .dir | .link _ => none

/-- The file with some bytes. -/
def ofStoredBytes (bytes : List UInt8) : Node :=
  if sealMark.isPrefixOf bytes then .sealed (bytes.drop sealMark.length) else .file bytes

end GameFixes.Node
