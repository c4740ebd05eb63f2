import GameFixes.Depot.Archive
import GameFixes.Depot.TextMerge

/-!
# Renames

Between two snapshots, a file that is gone and one that is new may be the same under another name:
if they are equal, or else if they have enough in common. Each file is taken once.
-/

namespace GameFixes.Depot.Renames

/-- A file under another name. -/
structure Rename where
  old : Place
  new : Place
  /-- How much the two have in common, in hundredths. -/
  score : Nat
  deriving DecidableEq, Repr

/-! ### What contents have in common -/

/-- How long a piece may be. -/
def pieceLimit : Nat := 64

/-- The pieces of a content: they end behind line feeds, or where they reach the limit. `piece` is
the piece so far, backwards. -/
def pieces : (size : Nat) → (piece : List UInt8) → List UInt8 → List (List UInt8)
  | _, piece, [] => if piece.isEmpty then [] else [piece]
  | size, piece, b :: bytes =>
    if b = 0x0A || size + 1 = pieceLimit then (b :: piece) :: pieces 0 [] bytes
    else pieces (size + 1) (b :: piece) bytes

/-- How many bytes of some pieces are among others, each of which counts once. -/
def common : List (List UInt8) → List (List UInt8) → Nat
  | [], _ => 0
  | piece :: l, others =>
    if others.contains piece then piece.length + common l (others.erase piece)
    else common l others

/-- The highest score, which equal contents have. -/
def fullScore : Nat := 60000

/-- How much two contents have in common. -/
def scoreOf (old new : List UInt8) : Nat :=
  let size := max old.length new.length
  if new.isEmpty || size = 0 || old.length * 2 < size || new.length * 2 < size then 0
  else common (pieces 0 [] old) (pieces 0 [] new) * fullScore / size

/-! ### Finding -/

/-- The items of one snapshot that another one does not have the like of at their place. -/
def missingIn (s t : Snapshot) : Snapshot :=
  s.filter fun e => (t.at? e.1).isNone && e.2.kind ≠ .nested

/-- Whether two items can be the same under another name. -/
def isAlike (a b : Item) : Bool :=
  (a.kind = .link) = (b.kind = .link)

/-- The renames of equal files: for each new one the first old one with its name in its directory, or
else the first at all. -/
def exact (heedsEmpty : Item → Bool) : (gone new : Snapshot) → List Rename
  | _, [] => []
  | gone, (p, item) :: new =>
    let found := gone.filter fun e => e.2.name = item.name && isAlike e.2 item && heedsEmpty item
    match (found.find? (·.1.getLast? = p.getLast?)).or found.head? with
    | some (q, _) => ⟨q, p, 100⟩ :: exact heedsEmpty (gone.filter (·.1 ≠ q)) new
    | none => exact heedsEmpty gone new

/-- Pairs in which no file was met before, as renames. -/
def firstPairs : (used : List Place × List Place) → List (Nat × Place × Place) → List Rename
  | _, [] => []
  | (olds, news), (score, old, new) :: l =>
    if olds.contains old || news.contains new then firstPairs (olds, news) l
    else ⟨old, new, score * 100 / fullScore⟩ :: firstPairs (old :: olds, new :: news) l

/-- The renames of files that are not equal, the most alike first. -/
def inexact (content? : ObjectName → Option (List UInt8)) (gone new : Snapshot) : List Rename :=
  let isFile (e : Place × Item) : Bool := e.2.kind = .file || e.2.kind = .program
  let contents (s : Snapshot) : List (Place × List UInt8) :=
    (s.filter isFile).filterMap fun e => (content? e.2.name).map (e.1, ·)
  let olds := contents gone
  let pairs := (contents new).flatMap fun (p, b) => olds.filterMap fun (q, a) =>
    let score := scoreOf a b
    if fullScore ≤ score * 2 then some (score, q, p) else none
  let isNamed (e : Nat × Place × Place) : Nat := if e.2.1.getLast? = e.2.2.getLast? then 1 else 0
  firstPairs ([], []) (pairs.mergeSort fun x y =>
    y.1 < x.1 || (x.1 = y.1 && isNamed y ≤ isNamed x))

/-- The renames from one snapshot to another one. -/
def find (content? : ObjectName → Option (List UInt8)) (withEmpty : Bool) (s t : Snapshot) :
    List Rename :=
  let gone := missingIn s t
  let new := missingIn t s
  let heeds (item : Item) : Bool := withEmpty || content? item.name ≠ some []
  let first := exact heeds gone new
  let gone := gone.filter fun e => !first.any (·.old = e.1)
  let new := new.filter fun e => !first.any (·.new = e.1)
  first ++ inexact content? gone new

end GameFixes.Depot.Renames
