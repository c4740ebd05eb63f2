import GameFixes.Depot.Glob
import GameFixes.Depot.Object
import GameFixes.Text.Find

/-!
# Messages

The messages of commits and tags. Blanks at the ends of lines and needless blank lines are taken
away, perhaps with lines that are remarks; the last lines may be notes with a name and a value.
-/

namespace GameFixes.Depot.Message

/-- What is taken away from a message. -/
inductive Cleaning
  | nothing
  | blanks
  /-- Blanks and remarks. -/
  | remarks
  /-- Blanks, remarks and all behind a line with scissors. -/
  | scissors
  deriving DecidableEq, Repr

/-! ### Lines -/

/-- A line without the blanks at its end. -/
def trimmedLine (line : List Char) : List Char := (line.reverse.dropWhile Glob.isSpace).reverse

/-- Lines without those that follow an empty one and are empty too. -/
def squeezed : List (List Char) → List (List Char)
  | [] :: [] :: rest => squeezed ([] :: rest)
  | line :: rest => line :: squeezed rest
  | [] => []

/-- Lines without the empty ones at both ends. -/
def withoutEmptyEnds (lines : List (List Char)) : List (List Char) :=
  ((lines.dropWhile List.isEmpty).reverse.dropWhile List.isEmpty).reverse

/-- The lines of a message without needless blanks. -/
def cleanLines (lines : List (List Char)) : List (List Char) :=
  squeezed (withoutEmptyEnds (lines.map trimmedLine))

/-- Lines as a text in which each of them ends. -/
def textOfLines (lines : List (List Char)) : String :=
  String.ofList (lines.flatMap (· ++ ['\n']))

/-- The line below which nothing counts. -/
def scissorsLine (mark : Char) : List Char :=
  mark :: " ------------------------ >8 ------------------------".toList

/-- A message of which something was taken away; `mark` starts remarks. -/
def clean (how : Cleaning) (mark : Char) (message : String) : String :=
  let lines := Text.splitOn '\n' message.toList
  let isRemark (line : List Char) : Bool := line.head? = some mark
  match how with
  | .nothing => message
  | .blanks => textOfLines (cleanLines lines)
  | .remarks => textOfLines (cleanLines (lines.filter (!isRemark ·)))
  | .scissors => textOfLines (cleanLines
      ((lines.takeWhile (· ≠ scissorsLine mark)).filter (!isRemark ·)))

/-! ### Parts -/

/-- The line that says what a message is about: the first lines, up to an empty one. -/
def subject (message : String) : String :=
  let lines := (Text.splitOn '\n' message.toList).dropWhile List.isEmpty
  String.ofList (List.intercalate [' '] (lines.takeWhile (!·.isEmpty)))

/-- What stands in front of the name of somebody who signs a message. -/
def signMark : String := "Signed-off-by: "

/-- Whether nothing is in a message but notes by people who signed it. -/
def isEmpty (how : Cleaning) (message : String) : Bool :=
  if how = .nothing && message ≠ "" then false
  else (Text.splitOn '\n' message.toList).all fun line =>
    (Text.after? signMark.toList line).isSome || line.all Glob.isSpace

/-- Whether a line is a note: a name, a colon and a value. -/
def isNote (line : List Char) : Bool :=
  let name := line.takeWhile fun c => c.isAlphanum || c = '-'
  name ≠ [] && (line.drop name.length).head? = some ':'

/-- A message with a note below it. Notes make up a part of their own. -/
def addNote (note message : String) : String :=
  let lines := withoutEmptyEnds (Text.splitOn '\n' message.toList)
  let last := (lines.reverse.takeWhile (!·.isEmpty)).reverse
  let hasNotes := last.length < lines.length && last.all isNote
  if hasNotes && last.getLast? = some note.toList then message
  else textOfLines (lines ++ (if hasNotes then [] else [[]]) ++ [note.toList])

/-- The note that a text says: its name and value are separated by a colon or an equals sign. -/
def noteOf (text : String) : String :=
  let s := text.toList
  let name := s.takeWhile fun c => c ≠ ':' && c ≠ '='
  let value := ((s.drop name.length).drop 1).dropWhile Glob.isSpace
  String.ofList (trimmedLine name ++ ": ".toList ++ value)

end GameFixes.Depot.Message
