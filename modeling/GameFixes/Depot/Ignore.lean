import GameFixes.Depot.PathRule
import GameFixes.Text.Utf8

/-!
# Ignored files

The files named `.gitignore` in the directories of a depot, and one of its own, say what is not to
be taken into it. Of the rules about a path the innermost file counts, and in it the last one; what
lies in an ignored directory is ignored, whatever else is said about it.
-/

namespace GameFixes.Depot

namespace Ignore

/-- The name of the files with rules. -/
def fileName : FileName := bytesOf ".gitignore"

/-- A line without the blanks at its end; a backslash keeps the blank behind it. -/
def withoutBlanks (line : List Char) : List Char :=
  let rec go : List Char → List Char × Bool
    | [] => ([], true)
    | ['\\'] => (['\\'], false)
    | '\\' :: c :: s => let (t, _) := go s; ('\\' :: c :: t, false)
    | ' ' :: s => match go s with
      | (_, true) => ([], true)
      | (t, false) => (' ' :: t, false)
    | c :: s => let (t, _) := go s; (c :: t, false)
  (go line).1

/-- The rule that a line says. -/
def ruleOfLine? (base : Place) (line : List Char) : Option PathRule :=
  if line.isEmpty || line.head? = some '#' then none
  else
    let line := (Text.dropLast? '\r' line).getD line
    some (.ofText base (withoutBlanks (line.takeWhile (· ≠ '\x00'))))

/-- The bytes of a file without a mark of the byte order at their start. -/
def withoutMark : List UInt8 → List UInt8
  | 0xEF :: 0xBB :: 0xBF :: bytes => bytes
  | bytes => bytes

/-- The rules of a file in a directory. -/
def rulesOf (base : Place) (content : List UInt8) : List PathRule :=
  (Text.splitOn '\n' (Text.octets (withoutMark content))).filterMap (ruleOfLine? base)

/-- What the last rule about a place says, if there is one. -/
def verdict? (folds : Bool) (p : Place) (isDir : Bool) (rules : List PathRule) : Option Bool :=
  (rules.reverse.find? (·.covers folds p isDir)).map (!·.isNegated)

/-- The rules of the file in a directory of a depot, if there is one. -/
def rulesIn (t : Tree) (top base : Place) : List PathRule :=
  match t.at? (top ++ base ++ [fileName]) with
  | some (.file content) => rulesOf base content
  | _ => []

end Ignore

/-- What is ignored in the directory of a depot, apart from what files in it say. -/
structure IgnoreRules where
  /-- Rules that count more than all others, the last one most. -/
  said : List PathRule := []
  /-- Rules that count less, by where they are from; the first count most. -/
  general : List (List PathRule) := []
  /-- Whether the size of letters does not matter. -/
  folds : Bool := false
  /-- Whether the files in the directories count. -/
  heedsFiles : Bool := true
  deriving DecidableEq, Repr

namespace IgnoreRules

/-- What the rules say about a place, those around it aside. -/
def saidOf? (r : IgnoreRules) (t : Tree) (top p : Place) (isDir : Bool) : Option Bool :=
  let inside := if r.heedsFiles then
    ((Tree.around p).reverse ++ [[]]).map (Ignore.rulesIn t top) else []
  (r.said :: inside ++ r.general).findSome? (Ignore.verdict? r.folds p isDir)

/-- Whether a place in the directory of a depot is ignored. -/
def covers (r : IgnoreRules) (t : Tree) (top p : Place) (isDir : Bool) : Bool :=
  (Tree.around p).any (fun q => r.saidOf? t top q true = some true) ||
    r.saidOf? t top p isDir = some true

end IgnoreRules

end GameFixes.Depot
