import GameFixes.Depot.Glob
import GameFixes.Tree.Node
import GameFixes.Text.Find
import GameFixes.Text.Utf8

/-!
# Rules about paths

A rule names the paths in a directory that it is about. With a slash in it, apart from one at its
end, a rule is about paths as seen from its directory; otherwise it is about names, wherever they
are. With a slash at its end it is about directories only.
-/

namespace GameFixes.Depot

/-- A rule about paths. -/
structure PathRule where
  /-- The directory that the rule is in. -/
  base : Place
  /-- Whether the rule takes back what others say. -/
  isNegated : Bool
  onlyDirs : Bool
  /-- Whether the rule is about names wherever they are. -/
  byName : Bool
  pattern : List Char
  deriving DecidableEq, Repr

/-- A name as characters. -/
def nameText (name : FileName) : List Char := Text.octets name

/-- A place as characters, with slashes between the names. -/
def placeText (p : Place) : List Char := List.intercalate ['/'] (p.map nameText)

namespace PathRule

/-- The rule that a text in a directory says. -/
def ofText (base : Place) (s : List Char) : PathRule :=
  let (isNegated, s) := match s with
    | '!' :: s => (true, s)
    | s => (false, s)
  let (onlyDirs, s) := match Text.dropLast? '/' s with
    | some s => (true, s)
    | none => (false, s)
  ⟨base, isNegated, onlyDirs, !s.contains '/', s⟩

/-- Whether a pattern stands for a path. Its start is compared as it is, up to the first special
character; the pattern for the rest starts there. -/
def coversPath (pattern path : List Char) : Bool :=
  let start := Glob.plainStart pattern
  match Text.after? start path with
  | some rest => Glob.covers true (pattern.drop start.length) rest
  | none => false

/-- A text in which letters are small if their size does not matter. -/
def folded (folds : Bool) (s : List Char) : List Char := if folds then s.map Char.toLower else s

/-- Whether a rule is about a place; `folds` says that the size of letters does not matter. -/
def covers (folds : Bool) (r : PathRule) (p : Place) (isDir : Bool) : Bool :=
  let pattern := folded folds r.pattern
  if r.onlyDirs && !isDir then false
  else if r.byName then Glob.covers true pattern (folded folds (nameText (p.getLastD [])))
  else if Tree.isUnder r.base p then
    coversPath (Text.withoutStart ['/'] pattern)
      (folded folds (placeText (p.drop r.base.length)))
  else false

end PathRule

end GameFixes.Depot
