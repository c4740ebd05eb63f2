import GameFixes.Depot.Renames

/-!
# Summaries of differences

What two snapshots differ in, for people: a line for each file with the number of its changed lines
and a bar for them, the sum of all, and a line for each file that came, went, or is of another kind
now.
-/

namespace GameFixes.Depot.Diffstat

/-! ### Names -/

/-- The octal digits of a byte. -/
def octal (b : UInt8) : List Char :=
  [b.toNat / 64, b.toNat / 8 % 8, b.toNat % 8].map fun n => Char.ofNat (48 + n)

/-- The letter that stands for a control character behind a backslash. -/
def escapeLetter? (b : UInt8) : Option Char :=
  [(0x07, 'a'), (0x08, 'b'), (0x09, 't'), (0x0A, 'n'), (0x0B, 'v'), (0x0C, 'f'), (0x0D, 'r'),
    (0x22, '"'), (0x5C, '\\')].lookup b

/-- A path in quotes, if some of its bytes cannot stand for themselves. -/
def quoted (bytes : List UInt8) : List Char :=
  let written (b : UInt8) : List Char :=
    match escapeLetter? b with
    | some c => ['\\', c]
    | none => if b < 0x20 || 0x7F ≤ b then '\\' :: octal b else [Char.ofNat b.toNat]
  if bytes.all fun b => (escapeLetter? b).isNone && 0x20 ≤ b && b < 0x7F then
    bytes.flatMap written
  else '"' :: bytes.flatMap written ++ ['"']

/-- The path of a place. -/
def pathBytes (p : Place) : List UInt8 := List.intercalate [0x2F] p

/-- The path of a place for people. -/
def pathText (p : Place) : List Char := quoted (pathBytes p)

/-- How many names two places have in common at their start. -/
def commonNames : Place → Place → Nat
  | a :: p, b :: q => if a = b then commonNames p q + 1 else 0
  | _, _ => 0

/-- Two paths for people, with what they have in common only once. -/
def renameText (old new : Place) : List Char :=
  let n := commonNames old.dropLast new.dropLast
  let (a, b) := (old.drop n, new.drop n)
  let m := min (commonNames a.reverse b.reverse) (min a.length b.length)
  let part (p : Place) : List Char := String.toList (String.ofList (pathText p))
  let middle := part (a.take (a.length - m)) ++ " => ".toList ++ part (b.take (b.length - m))
  let front := part (old.take n)
  let back := part (a.drop (a.length - m))
  if n = 0 && m = 0 then middle
  else
    (if n = 0 then [] else front ++ ['/']) ++ '\x7b' :: middle ++ ['\x7d'] ++
      if m = 0 then [] else '/' :: back

/-! ### Changes -/

/-- What has become of a file. -/
structure FileChange where
  place : Place
  /-- Where it was before, if it was elsewhere, and how much it has changed since. -/
  source : Option (Place × Nat) := none
  old : Option Item
  new : Option Item
  deriving DecidableEq, Repr

/-- The changes between two snapshots, in the order of the paths. -/
def changes (renames : List Renames.Rename) (s t : Snapshot) : List FileChange :=
  let places := (s.map (·.1) ++ t.map (·.1)).eraseDups
  let moved := renames.map fun r =>
    ({ place := r.new, source := some (r.old, r.score), old := s.at? r.old,
       new := t.at? r.new } : FileChange)
  let rest := places.filter fun p =>
    s.at? p ≠ t.at? p && !renames.any fun r => r.old = p || r.new = p
  let changed := rest.map fun p => ({ place := p, old := s.at? p, new := t.at? p } : FileChange)
  (moved ++ changed).mergeSort fun a b => pathBytes a.place ≤ pathBytes b.place

/-- What is counted of a change. -/
inductive Count
  | lines (added dropped : Nat)
  /-- The sizes before and after, of what is no text. -/
  | bytes (old new : Nat)
  deriving DecidableEq, Repr

/-- The content that an item has for people. -/
def contentOf (content? : ObjectName → Option (List UInt8)) : Option Item → List UInt8
  | none => []
  | some ⟨.nested, name⟩ => bytesOf ("Subproject commit " ++ name ++ "\n")
  | some item => (content? item.name).getD []

/-- Counts what a change changes. -/
def FileChange.count (content? : ObjectName → Option (List UInt8)) (c : FileChange) : Count :=
  let old := contentOf content? c.old
  let new := contentOf content? c.new
  let isSame := c.old.map (·.name) = c.new.map (·.name)
  if TextMerge.isBinary old || TextMerge.isBinary new then
    if isSame then .bytes 0 0 else .bytes old.length new.length
  else if isSame then .lines 0 0
  else
    let (added, dropped) := Difference.counts
      (Difference.edits (Difference.linesOf old) (Difference.linesOf new))
    .lines added dropped

/-! ### Lines -/

/-- The width that is there for a line. -/
def lineWidth (columns : Nat) (numberWidth : Nat) : Nat := max columns (22 + numberWidth)

/-- The share of a number in a whole, on a scale; only nothing has none. -/
def share (n width whole : Nat) : Nat := if n = 0 then 0 else 1 + n * (width - 1) / whole

/-- The widths of the columns for names, numbers and bars. -/
structure Widths where
  name : Nat
  number : Nat
  bar : Nat
  deriving DecidableEq, Repr

/-- How many digits a number has. -/
def digitCount (n : Nat) : Nat := (toString n).length

/-- The room that some columns need, and are given if there is as much. -/
def widthsOf (columns : Nat) (names : List Nat) (counts : List Count) : Widths :=
  let most (l : List Nat) : Nat := l.foldl max 0
  let name := most names
  let change := most (counts.map fun c => match c with
    | .lines added dropped => added + dropped
    | .bytes _ _ => 0)
  let binary := most (counts.map fun c => match c with
    | .lines _ _ => 0
    | .bytes old new => 14 + digitCount old + digitCount new)
  let number := max (digitCount change) (if binary = 0 then 0 else 3)
  let width := lineWidth columns number
  let bar := if binary < change + 4 then change else binary - 4
  if name + number + 6 + bar ≤ width then ⟨name, number, bar⟩
  else
    let limit := width * 3 / 8 - number - 6
    let bar := if limit < bar then max limit 6 else bar
    if width - number - 6 - bar < name then ⟨width - number - 6 - bar, number, bar⟩
    else ⟨name, number, width - number - 6 - name⟩

/-- A name in its column; of one that is too long, the end is shown. -/
def nameCell (width : Nat) (name : List Char) : List Char :=
  if name.length ≤ width then name ++ List.replicate (width - name.length) ' '
  else
    let rest := name.drop (name.length - (width - 3))
    let rest := if rest.contains '/' then rest.dropWhile (· ≠ '/') else rest
    "...".toList ++ rest ++ List.replicate (width - 3 - rest.length) ' '

/-- A text at the right of its column. -/
def rightCell (width : Nat) (s : List Char) : List Char :=
  List.replicate (width - s.length) ' ' ++ s

/-- The lengths of the two parts of a bar. -/
def barParts (width whole added dropped : Nat) : Nat × Nat :=
  if width ≤ whole then
    let total := share (added + dropped) width whole
    let total := if total < 2 && 0 < added && 0 < dropped then 2 else total
    if added < dropped then
      let a := share added width whole
      (a, total - a)
    else
      let d := share dropped width whole
      (total - d, d)
  else (added, dropped)

/-- The line about a file. -/
def fileLine (w : Widths) (whole : Nat) (name : List Char) (c : Count) : List Char :=
  let start := ' ' :: nameCell w.name name ++ " | ".toList
  match c with
  | .bytes old new =>
    start ++ rightCell w.number "Bin".toList ++
      if old = 0 && new = 0 then []
      else (" " ++ toString old ++ " -> " ++ toString new ++ " bytes").toList
  | .lines added dropped =>
    let (a, d) := barParts w.bar whole added dropped
    start ++ rightCell w.number (toString (added + dropped)).toList ++
      (if added + dropped = 0 then [] else [' ']) ++ List.replicate a '+' ++ List.replicate d '-'

/-- A number of things. -/
def plural (n : Nat) (one many : String) : String := toString n ++ if n = 1 then one else many

/-- The line about all files. -/
def sumLine (counts : List Count) : List Char :=
  let (added, dropped) := counts.foldl (fun (a, d) c =>
    match c with
    | .lines x y => (a + x, d + y)
    | .bytes _ _ => (a, d)) (0, 0)
  (" " ++ plural counts.length " file changed" " files changed" ++
    (if 0 < added || dropped = 0 then
      ", " ++ plural added " insertion(+)" " insertions(+)" else "") ++
    (if 0 < dropped || added = 0 then
      ", " ++ plural dropped " deletion(-)" " deletions(-)" else "")).toList

/-- The line about the kind of a file, if there is something to say. -/
def kindLine? (c : FileChange) : Option (List Char) :=
  let digits (item : Item) : List Char := item.kind.digits.toList
  match c.source, c.old, c.new with
  | some (old, score), some a, some b =>
    some (" rename ".toList ++ renameText old c.place ++
      (" (" ++ toString score ++ "%)").toList ++
      if a.kind = b.kind then []
      else "\n mode change ".toList ++ digits a ++ " => ".toList ++ digits b)
  | _, none, some b => some (" create mode ".toList ++ digits b ++ ' ' :: pathText c.place)
  | _, some a, none => some (" delete mode ".toList ++ digits a ++ ' ' :: pathText c.place)
  | _, some a, some b =>
    if a.kind = b.kind then none
    else some (" mode change ".toList ++ digits a ++ " => ".toList ++ digits b ++
      ' ' :: pathText c.place)
  | _, none, none => none

/-- The summary of the differences between two snapshots. -/
def summary (content? : ObjectName → Option (List UInt8)) (columns : Nat) (s t : Snapshot) :
    String :=
  let files := changes (Renames.find content? true s t) s t
  if files.isEmpty then ""
  else
    let names := files.map fun c => match c.source with
      | some (old, _) => renameText old c.place
      | none => pathText c.place
    let counts := files.map (·.count content?)
    let w := widthsOf columns (names.map List.length) counts
    let whole := (counts.map fun c => match c with
      | .lines added dropped => added + dropped
      | .bytes _ _ => 0).foldl max 0
    let lines := (names.zip counts).map (fun (name, c) => fileLine w whole name c) ++
      [sumLine counts] ++ files.filterMap kindLine?
    String.ofList (lines.flatMap (· ++ ['\n']))

end GameFixes.Depot.Diffstat
