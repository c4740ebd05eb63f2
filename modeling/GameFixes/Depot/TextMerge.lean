import GameFixes.Depot.Difference
import GameFixes.Text.Utf8

/-!
# Merging texts

Two texts that have come from a common one become one text again, with the changes of both. Where
both have changed the same lines, or lines next to each other, in different ways, they are in
conflict.
-/

namespace GameFixes.Depot.TextMerge

open Difference

/-! ### Changes -/

/-- Some lines that have taken the place of others. -/
structure Change where
  start : Nat
  count : Nat
  lines : List TextLine
  deriving DecidableEq, Repr

/-- The line behind a change. -/
def Change.stop (c : Change) : Nat := c.start + c.count

/-- The changes that edits make; `pos` is the line that they are at. -/
def changes : (pos : Nat) → (open? : Option Change) → List LineEdit → List Change
  | _, open?, [] => open?.toList
  | pos, open?, .keep _ :: l => open?.toList ++ changes (pos + 1) none l
  | pos, open?, .drop _ :: l =>
    let c := open?.getD ⟨pos, 0, []⟩
    changes (pos + 1) (some { c with count := c.count + 1 }) l
  | pos, open?, .add line :: l =>
    let c := open?.getD ⟨pos, 0, []⟩
    changes pos (some { c with lines := c.lines ++ [line] }) l

/-- The changes from one text to another one. -/
def changesOf (a b : List TextLine) : List Change := changes 0 none (settled a b)

/-- The lines between two places of a text, after some changes. -/
def changed (base : List TextLine) : (start stop : Nat) → List Change → List TextLine
  | start, stop, [] => (base.take stop).drop start
  | start, stop, c :: cs =>
    (base.take c.start).drop start ++ c.lines ++ changed base c.stop stop cs

/-! ### Merging -/

/-- A part of a merged text. -/
inductive Part
  | settled (lines : List TextLine)
  | conflict (ours theirs : List TextLine)
  deriving DecidableEq, Repr

/-- The changes that start before a place, or at it, and the others. -/
def upTo (stop : Nat) (cs : List Change) : List Change × List Change :=
  (cs.takeWhile (·.start ≤ stop), cs.dropWhile (·.start ≤ stop))

/-- The place behind the last of some changes. -/
def lastStop (stop : Nat) (cs : List Change) : Nat := cs.foldl (fun n c => max n c.stop) stop

/-- How far the changes reach that touch each other, from one that reaches to a place. -/
def reachOf (ours theirs : List Change) : (fuel : Nat) → (stop : Nat) → Nat
  | 0, stop => stop
  | fuel + 1, stop =>
    let next := lastStop (lastStop stop (upTo stop ours).1) (upTo stop theirs).1
    if next = stop then stop else reachOf ours theirs fuel next

/-- The parts of a merged text behind a place. -/
def partsFrom (base : List TextLine) :
    (fuel : Nat) → (pos : Nat) → (ours theirs : List Change) → List Part
  | 0, pos, _, _ => [.settled (base.drop pos)]
  | fuel + 1, pos, ours, theirs =>
    match (ours.head?.toList ++ theirs.head?.toList).map (·.start) with
    | [] => [.settled (base.drop pos)]
    | n :: l =>
      let start := l.foldl min n
      let stop := reachOf ours theirs (ours.length + theirs.length + 1) start
      let (mine, ours) := upTo stop ours
      let (yours, theirs) := upTo stop theirs
      let a := changed base start stop mine
      let b := changed base start stop yours
      let part := if yours.isEmpty || a = b then Part.settled a
        else if mine.isEmpty then .settled b
        else .conflict a b
      .settled ((base.take start).drop pos) :: part :: partsFrom base fuel stop ours theirs

/-! ### Conflicts -/

/-- A conflict, in which what both sides have in common is settled. -/
def refined : (ours theirs : List TextLine) → List LineEdit → List Part
  | ours, theirs, [] => if ours.isEmpty && theirs.isEmpty then [] else [.conflict ours theirs]
  | ours, theirs, .keep line :: l =>
    (if ours.isEmpty && theirs.isEmpty then [] else [.conflict ours theirs]) ++
      .settled [line] :: refined [] [] l
  | ours, theirs, .drop line :: l => refined (ours ++ [line]) theirs l
  | ours, theirs, .add line :: l => refined ours (theirs ++ [line]) l

/-- How many settled lines between two conflicts belong to them. -/
def gapLimit : Nat := 3

/-- Parts in which no settled ones follow each other, and in which conflicts that stand close to each
other are one; `done` are the parts so far, backwards. -/
def joined : (done : List Part) → List Part → List Part
  | done, [] => done.reverse
  | .settled a :: done, .settled b :: l => joined (.settled (a ++ b) :: done) l
  | .settled m :: .conflict a b :: done, .conflict c d :: l =>
    if m.length ≤ gapLimit then joined (.conflict (a ++ m ++ c) (b ++ m ++ d) :: done) l
    else joined (.conflict c d :: .settled m :: .conflict a b :: done) l
  | done, part :: l => joined (part :: done) l

/-- Parts with all conflicts refined. -/
def refineAll (parts : List Part) : List Part :=
  joined [] (parts.flatMap fun part =>
    match part with
    | .settled lines => [.settled lines]
    | .conflict ours theirs =>
      if ours.isEmpty || theirs.isEmpty then [.conflict ours theirs]
      else refined [] [] (settled ours theirs))

/-- The parts of the text that two texts from a common one become. -/
def parts (base ours theirs : List TextLine) : List Part :=
  let mine := changesOf base ours
  let yours := changesOf base theirs
  refineAll (partsFrom base (mine.length + yours.length + 1) 0 mine yours)

/-! ### Texts -/

/-- Which side wins where both are in conflict. -/
inductive Favor
  | ours
  | theirs
  /-- Both do, one behind the other. -/
  | both
  deriving DecidableEq, Repr

/-- The names of the sides of a conflict. -/
structure Labels where
  ours : String := "HEAD"
  theirs : String
  deriving DecidableEq, Repr

/-- Lines of which the last one ends with a feed. -/
def ended (lines : List TextLine) : List UInt8 :=
  let bytes := lines.flatten
  if bytes.isEmpty || bytes.getLast? = some 0x0A then bytes else bytes ++ [0x0A]

/-- A part as bytes. -/
def Part.bytes (labels : Labels) (favor : Option Favor) : Part → List UInt8
  | .settled lines => lines.flatten
  | .conflict ours theirs =>
    match favor with
    | some .ours => ours.flatten
    | some .theirs => theirs.flatten
    | some .both => ended ours ++ theirs.flatten
    | none =>
      bytesOf ("<<<<<<< " ++ labels.ours ++ "\n") ++ ended ours ++ bytesOf "=======\n" ++
        ended theirs ++ bytesOf (">>>>>>> " ++ labels.theirs ++ "\n")

/-- Whether a part is in conflict. -/
def Part.isConflict : Part → Bool
  | .conflict _ _ => true
  | .settled _ => false

/-- Whether a content does not look like a text: there is a zero near its start. -/
def isBinary (content : List UInt8) : Bool := (content.take 8000).contains 0

/-- What two contents that have come from a common one become, and whether they are not in
conflict. -/
def merge (labels : Labels) (favor : Option Favor) (base ours theirs : List UInt8) :
    List UInt8 × Bool :=
  if ours = theirs || base = theirs then (ours, true)
  else if base = ours then (theirs, true)
  else if isBinary base || isBinary ours || isBinary theirs then
    match favor with
    | some .theirs => (theirs, true)
    | some .ours => (ours, true)
    | some .both | none => (ours, false)
  else
    let l := parts (linesOf base) (linesOf ours) (linesOf theirs)
    (l.flatMap (Part.bytes labels favor), favor.isSome || !l.any Part.isConflict)

end GameFixes.Depot.TextMerge
