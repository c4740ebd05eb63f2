/-!
# Differences

What has to be taken away from a text and put into it to get another one, line by line, with as few
lines as possible.
-/

namespace GameFixes.Depot

/-- A line of a text, with what ends it. -/
abbrev TextLine := List UInt8

/-- What happens to a line. -/
inductive LineEdit
  | keep (line : TextLine)
  | drop (line : TextLine)
  | add (line : TextLine)
  deriving DecidableEq, Repr

namespace Difference

/-- The lines of a text, each with the feed that ends it. -/
def linesOf : List UInt8 → List TextLine
  | [] => []
  | b :: bytes =>
    if b = 0x0A then [b] :: linesOf bytes
    else
      match linesOf bytes with
      | [] => [[b]]
      | line :: lines => (b :: line) :: lines

/-! ### Common lines -/

/-- How many lines a text has in common with the rests of another one; `below` says it for the text
without its first line. -/
def rowAbove (x : TextLine) : List TextLine → List Nat → List Nat
  | y :: ys, d :: below =>
    let row := rowAbove x ys below
    (if x = y then below.headD 0 + 1 else max d (row.headD 0)) :: row
  | _, _ => [0]

/-- How many lines the rests of two texts have in common, row by row. -/
def commonRows (a b : List TextLine) : List (List Nat) :=
  a.foldr (fun x rows =>
    rowAbove x b (rows.headD []) :: rows) [List.replicate (b.length + 1) 0]

/-- The edits from one text to another one, by the rows of what their rests have in common. -/
def walk : List TextLine → List (List Nat) → List TextLine → List LineEdit
  | [], _, b => b.map .add
  | x :: a, _, [] => (x :: a).map .drop
  | x :: a, rows, y :: b =>
    if x = y then .keep x :: walk a ((rows.drop 1).map (·.drop 1)) b
    else
      let below := ((rows.drop 1).headD []).headD 0
      let right := ((rows.headD []).drop 1).headD 0
      if right ≤ below then .drop x :: walk a (rows.drop 1) (y :: b)
      else .add y :: walk (x :: a) (rows.map (·.drop 1)) b
  termination_by a _ b => a.length + b.length

/-- How many lines two texts have in common at their start. -/
def commonStart : List TextLine → List TextLine → Nat
  | x :: a, y :: b => if x = y then commonStart a b + 1 else 0
  | _, _ => 0

/-- The edits from one text to another one. -/
def edits (a b : List TextLine) : List LineEdit :=
  let n := commonStart a b
  let a' := a.drop n
  let b' := b.drop n
  (a.take n).map .keep ++ walk a' (commonRows a' b') b'

/-! ### Moving changes down -/

/-- Whether an edit changes nothing. -/
def isKept : LineEdit → Bool
  | .keep _ => true
  | .drop _ | .add _ => false

/-- The line of an edit. -/
def lineOf : LineEdit → TextLine
  | .keep line | .drop line | .add line => line

/-- Whether an edit takes its line away. -/
def isDropped : LineEdit → Bool
  | .drop _ => true
  | .keep _ | .add _ => false

/-- Whether an edit puts its line in. -/
def isAdded : LineEdit → Bool
  | .add _ => true
  | .keep _ | .drop _ => false

/-- Whether edits are all of one kind. -/
def areAlike (l : List LineEdit) : Bool := l.all isDropped || l.all isAdded

/-- The same change of another line. -/
def withLine (line : TextLine) : LineEdit → LineEdit
  | .keep _ => .keep line
  | .drop _ => .drop line
  | .add _ => .add line

/-- Edits in which each group of one kind stands as far behind as it can; `group` is the one that
was met last. -/
def slide : (fuel : Nat) → (group : List LineEdit) → List LineEdit → List LineEdit
  | 0, group, l => group ++ l
  | _ + 1, group, [] => group
  | fuel + 1, group, e :: l =>
    if !isKept e then slide fuel (group ++ [e]) l
    else
      match group with
      | [] => e :: slide fuel [] l
      | g :: rest =>
        if areAlike group && lineOf g = lineOf e then
          .keep (lineOf g) :: slide fuel (rest ++ [withLine (lineOf e) g]) l
        else group ++ e :: slide fuel [] l

/-- The edits from one text to another one, with changes as far behind as they can stand. -/
def settled (a b : List TextLine) : List LineEdit :=
  let l := edits a b
  slide (l.length + 1) [] l

/-! ### Counting -/

/-- How many lines are added, and how many are dropped. -/
def counts (l : List LineEdit) : Nat × Nat :=
  (l.countP isAdded, l.countP isDropped)

end Difference

end GameFixes.Depot
