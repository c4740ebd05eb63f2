import GameFixes.Script.Call
import GameFixes.Text.Find
import GameFixes.Text.Line

/-!
# Scripts

The operations of a fix script. Only the entry routine counts, from its first line to the end of the
script. Each line of it that calls a fix function is an operation; blank lines, comments and
documentation are nothing; any other line is logic that no operation stands for, which one marker at
the end records.
-/

namespace GameFixes.Script

/-! ### Triple quotes

Texts between triple quotes may run over several lines. The mark that opens such a text is also the
one that closes it; the other mark has no meaning in between. -/

/-- The two marks of triple-quoted texts. -/
inductive Mark
  | double
  | single
  deriving DecidableEq, Repr

/-- How a mark is written. -/
def Mark.text : Mark → List Char
  | .double => ['"', '"', '"']
  | .single => ['\'', '\'', '\'']

/-- Whether a text starts with a mark. -/
def startsWithMark (s : List Char) : Bool :=
  (Text.after? Mark.double.text s).isSome || (Text.after? Mark.single.text s).isSome

/-- The mark left open after a text, given the mark left open before it. -/
def openAfter : Option Mark → List Char → Option Mark
  | m, [] => m
  | none, '"' :: '"' :: '"' :: s => openAfter (some .double) s
  | none, '\'' :: '\'' :: '\'' :: s => openAfter (some .single) s
  | some .double, '"' :: '"' :: '"' :: s => openAfter none s
  | some .single, '\'' :: '\'' :: '\'' :: s => openAfter none s
  | m, _ :: s => openAfter m s

@[simp] theorem openAfter_nil (m : Option Mark) : openAfter m [] = m := by
  cases m <;> simp [openAfter]

/-! ### Operations -/

/-- How the entry routine starts. -/
def entryMark : List Char := "def main".toList

/-- Whether a line is the head of the entry routine. -/
def isEntry (line : List Char) : Bool := (Text.after? entryMark line).isSome

/-- The trimmed lines of the entry routine; further heads of it are no lines of its own. -/
def body (source : List Char) : List (List Char) :=
  (((Text.lines source).dropWhile (!isEntry ·)).filter (!isEntry ·)).map Text.trim

/-- A quotation that runs over the end of a line. -/
structure Quotation where
  mark : Mark
  /-- Whether a line opened it that starts with a mark. -/
  isDoc : Bool
  deriving DecidableEq

/-- What a line of the entry routine amounts to. -/
inductive Reading
  /-- A blank line, a comment or documentation. -/
  | nothing
  /-- A call of a fix function. -/
  | operation (o : Operation)
  /-- Logic that no operation stands for. -/
  | logic
  deriving DecidableEq

/-- The operation of a reading, if it is one. -/
def Reading.operation? : Reading → Option Operation
  | .operation o => some o
  | _ => none

/-- Whether a trimmed line is blank or a comment. -/
def isIdle (line : List Char) : Bool := line.isEmpty || line.head? == some '#'

/-- The quotation that a line leaves open. -/
def openedBy (isDoc : Bool) (line : List Char) : Option Quotation :=
  (openAfter none line).map (⟨·, isDoc⟩)

/-- Reads a line inside a quotation. A line that closes it is nothing, whatever else it holds, and
what it opens again is of the same kind. -/
def readQuoted (q : Quotation) (line : List Char) : Reading × Option Quotation :=
  if Text.occurs q.mark.text line then
    (.nothing, (openAfter (some q.mark) line).map (⟨·, q.isDoc⟩))
  else if q.isDoc || isIdle line then (.nothing, some q)
  else (.logic, some q)

/-- Reads a line outside any quotation. -/
def readPlain (line : List Char) : Reading × Option Quotation :=
  if isIdle line then (.nothing, none)
  else if startsWithMark line then (.nothing, openedBy true line)
  else
    match Call.read? line with
    | some call => (.operation call.operation, openedBy false line)
    | none => (.logic, openedBy false line)

/-- Reads a trimmed line, given the quotation open before it. -/
def readLine : Option Quotation → List Char → Reading × Option Quotation
  | some q => readQuoted q
  | none => readPlain

/-- The readings of lines, one for each, given the quotation open before them. -/
def readings : Option Quotation → List (List Char) → List Reading
  | _, [] => []
  | q, line :: lines => (readLine q line).1 :: readings (readLine q line).2 lines

/-- The operations that readings stand for, with the marker last if some of them is logic. -/
def collect (rs : List Reading) : List Operation :=
  rs.filterMap Reading.operation? ++ if .logic ∈ rs then [Operation.additionalFixes] else []

/-- The operations of a script's entry routine, in the order of its lines. -/
def operations (source : String) : List Operation :=
  collect (readings none (body source.toList))

@[simp] theorem length_readings (q : Option Quotation) (lines : List (List Char)) :
    (readings q lines).length = lines.length := by
  induction lines generalizing q with
  | nil => rfl
  | cons line lines ih => simp [readings, ih]

end GameFixes.Script
