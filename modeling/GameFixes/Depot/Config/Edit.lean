import GameFixes.Depot.Config

/-!
# Editing settings

Changes to a text of settings that leave everything else in it as it is.
-/

namespace GameFixes.Depot.Config

/-! ### Names -/

/-- The name of a setting, as it was given. -/
structure Key where
  /-- The first part of the name of the section, and the second one. -/
  group : List Char
  part : Option (List Char)
  last : List Char
  deriving DecidableEq, Repr

namespace Key

/-- The name of a setting that a text says. -/
def ofText? (s : List Char) : Option Key :=
  match Text.splitOn '.' s with
  | group :: rest =>
    match rest.getLast?, rest.dropLast with
    | some last, parts =>
      let part := if parts.isEmpty then none else some (List.intercalate ['.'] parts)
      if group ≠ [] && group.all isKeyChar && last.head?.any Char.isAlpha && last.all isKeyChar &&
          !part.any (·.contains '\n') then some ⟨group, part, last⟩
      else none
    | none, _ => none
  | [] => none

/-- The name of a setting in a section whose name has a second part. -/
def inPart (group : String) (part : List Char) (last : String) : Key :=
  ⟨group.toList, some part, last.toList⟩

/-- The name of the section, as sections are compared. -/
def sectionName (k : Key) : List Char :=
  k.group.map Char.toLower ++ (k.part.map ('.' :: ·)).getD []

/-- The name, as settings are compared. -/
def name (k : Key) : List Char := k.sectionName ++ '.' :: k.last.map Char.toLower

/-- The line that starts the section. -/
def header (k : Key) : List Char :=
  match k.part with
  | none => sectionLine (String.ofList k.group)
  | some part => partLine (String.ofList k.group) part

end Key

/-! ### Pieces -/

/-- The text that pieces make up. -/
def textOf (pieces : List Piece) : List Char := pieces.flatMap Piece.text

/-- Whether a piece gives a setting. -/
def Piece.gives (name : List Char) : Piece → Bool
  | .setting n _ _ => n = name
  | .header _ _ | .comment _ | .blank _ => false

/-- Whether a piece starts a section or gives a setting in it. -/
def Piece.isIn (sectionName : List Char) : Piece → Bool
  | .header name _ => name = sectionName
  | .setting name _ _ =>
    (Text.after? (sectionName ++ ['.']) name).any fun last => !last.contains '.'
  | .comment _ | .blank _ => false

/-- Whether a piece is blank and does not end its line. -/
def Piece.isIndent : Piece → Bool
  | .blank text => text ≠ ['\n']
  | .header _ _ | .setting _ _ _ | .comment _ => false

/-- The pieces without the blank ones at the end of their last line. -/
def withoutIndent (pieces : List Piece) : List Piece :=
  (pieces.reverse.dropWhile Piece.isIndent).reverse

/-- Pieces with a line feed behind them, unless there is one. -/
def endLine (pieces : List Piece) : List Piece :=
  if pieces.isEmpty || (textOf pieces).getLast? = some '\n' then pieces
  else pieces ++ [.blank ['\n']]

/-- The piece that gives a value to a setting. -/
def pieceFor (k : Key) (value : List Char) : Piece :=
  .setting k.name (some value) (settingLine (String.ofList k.last) value)

/-- The pieces up to the last one with a property, and those behind it. -/
def splitAfter (has : Piece → Bool) (pieces : List Piece) : List Piece × List Piece :=
  let behind := pieces.reverse.takeWhile (!has ·)
  (pieces.take (pieces.length - behind.length), behind.reverse)

/-! ### Changes -/

/-- Gives another value to a setting, behind the values that it has, in its section if there is
one. -/
def add (k : Key) (value : List Char) (pieces : List Piece) : List Piece :=
  if pieces.any (·.isIn k.sectionName) then
    let (front, back) := splitAfter (·.isIn k.sectionName) pieces
    endLine front ++ pieceFor k value :: back
  else endLine pieces ++ [.header k.sectionName k.header, pieceFor k value]

/-- Takes all values from a setting, and the blanks in front of them on their lines. -/
def drop (k : Key) : List Piece → List Piece
  | [] => []
  | piece :: pieces =>
    let isGone := piece.gives k.name ||
      (piece.isIndent && ((pieces.dropWhile Piece.isIndent).head?).any (·.gives k.name))
    if isGone then drop k pieces else piece :: drop k pieces

/-- Puts a value in the place of the last of those that a setting has, and takes the others away. -/
def replace (k : Key) (value : List Char) (pieces : List Piece) : List Piece :=
  let (front, back) := splitAfter (·.gives k.name) pieces
  endLine (withoutIndent (drop k front)) ++ pieceFor k value :: back

/-- How a value is given to a setting. -/
inductive Change
  /-- It is the only value, and there is at most one so far. -/
  | one
  /-- It is the only value. -/
  | all
  /-- It is one more value. -/
  | more
  deriving DecidableEq, Repr

/-- Gives a value to a setting. -/
def set? (how : Change) (k : Key) (value : List Char) (pieces : List Piece) :
    Option (List Piece) :=
  match how, pieces.countP (·.gives k.name) with
  | .more, _ => some (add k value pieces)
  | _, 0 => some (add k value pieces)
  | .one, 1 | .all, _ => some (replace k value pieces)
  | .one, _ => none

/-- Takes a section away in which nothing is left, unless a comment may be about it. -/
def dropEmpty (sectionName : List Char) (pieces : List Piece) : List Piece :=
  let isOf (p : Piece) : Bool := match p with
    | .header name _ => name = sectionName
    | _ => false
  let (front, back) := splitAfter isOf pieces
  let isBlank (p : Piece) : Bool := p matches .blank _
  let goesOn := (back.dropWhile isBlank).head?.all fun p => p matches .header _ _
  let isClear := (front.dropLast.reverse.takeWhile fun p =>
    !(p matches .setting _ _ _)).all fun p => !(p matches .comment _)
  if front.getLast?.any isOf && goesOn && isClear then
    withoutIndent front.dropLast ++ back.dropWhile isBlank
  else pieces

/-- Takes the values from a setting, if there is one, or as many as there are. -/
def unset? (isForAll : Bool) (k : Key) (pieces : List Piece) : Option (List Piece) :=
  match pieces.countP (·.gives k.name) with
  | 0 => none
  | n => if n = 1 || isForAll then some (dropEmpty k.sectionName (drop k pieces)) else none

/-- The pieces without a section, if there is one. -/
def dropSection? (sectionName : List Char) (pieces : List Piece) : Option (List Piece) :=
  let (kept, _, isFound) := pieces.foldl (fun (kept, isIn, isFound) p =>
    match p with
    | .header name _ =>
      if name = sectionName then (kept, true, true) else (kept ++ [p], false, isFound)
    | _ => if isIn then (kept, isIn, isFound) else (kept ++ [p], isIn, isFound))
    (([] : List Piece), false, false)
  if isFound then some kept else none

/-- The pieces with another name for a section, if there is one. -/
def renameSection? (old new : Key) (pieces : List Piece) : Option (List Piece) :=
  let renamed := pieces.map fun p =>
    match p with
    | .header name text => if name = old.sectionName then .header new.sectionName new.header
        else .header name text
    | .setting name value text =>
      match Text.after? (old.sectionName ++ ['.']) name with
      | some last => if last.contains '.' then p
          else .setting (new.sectionName ++ '.' :: last) value text
      | none => p
    | p => p
  if renamed = pieces then none else some renamed

end GameFixes.Depot.Config
