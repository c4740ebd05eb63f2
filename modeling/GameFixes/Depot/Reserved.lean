import GameFixes.Depot.PathRule
import GameFixes.Tree.Route
import GameFixes.Text.Utf8

/-!
# Reserved names

Names that no item of a depot may have, as they could be taken for the directory in which depots are
kept: in any case, in the short forms that some file systems give to long names, and with characters
that others leave away. Links may not have the name of the file about nested depots either.
-/

namespace GameFixes.Depot.Reserved

/-- What a depot looks out for. -/
structure Guard where
  /-- Short forms, and blanks and dots at the end. -/
  shortForms : Bool := true
  /-- Characters without a width. -/
  ignoredChars : Bool := false
  deriving DecidableEq, Repr

/-- Whether nothing but dots and blanks stand in front of the end of a name. -/
def isEnd (stops : List Char) (s : List Char) : Bool :=
  match s.dropWhile fun c => c = '.' || c = ' ' with
  | [] => true
  | c :: _ => stops.contains c

/-- Whether a text says the name of the directory in which depots are kept, or its short form. -/
def saysKept (s : List Char) : Bool :=
  let s := s.map Char.toLower
  match (Text.after? ".git".toList s).or (Text.after? "git~1".toList s) with
  | some rest => isEnd [':', '\\'] rest
  | none => false

/-- Whether a text is the short form of a long name: a start of six characters and a number, or a
start that is longer the shorter the number is. -/
def isFallback (start : List Char) : (left : Nat) → (used : List Char) → List Char → Bool
  | 0, _, s => isEnd [':'] s
  | left + 1, used, s =>
    match s with
    | '~' :: c :: s =>
      '1' ≤ c && c ≤ '9' &&
        (s.take (left - 1)).length = left - 1 && (s.take (left - 1)).all Char.isDigit &&
        isEnd [':'] (s.drop (left - 1))
    | c :: s =>
      used.length < 6 && start[used.length]? = some c.toLower && isFallback start left (c :: used) s
    | [] => false

/-- Whether a text says the name of the file about nested depots, or one of its short forms. -/
def saysModules (s : List Char) : Bool :=
  let lower := s.map Char.toLower
  ((Text.after? ".gitmodules".toList lower).any (isEnd [':'])) ||
    (match Text.after? "gitmod~".toList lower with
      | some (c :: rest) => '1' ≤ c && c ≤ '4' && isEnd [':'] rest
      | _ => false) ||
    isFallback "gi7eba".toList 8 [] lower

/-- Whether a character has no width. -/
def isIgnored (c : Char) : Bool :=
  let n := c.toNat
  (0x200C ≤ n && n ≤ 0x200F) || (0x202A ≤ n && n ≤ 0x202E) || (0x206A ≤ n && n ≤ 0x206F) ||
    n = 0xFEFF

/-- Whether a name is one of a few if characters without a width are left away. -/
def isHidden (names : List String) (name : FileName) : Bool :=
  names.contains (String.ofList (((Text.decodeLossy name).filter (!isIgnored ·)).map Char.toLower))

/-- The parts of a name at backslashes, each with what follows it. -/
def tails : List Char → List (List Char)
  | [] => []
  | c :: s => if c = '\\' then s :: tails s else tails s

/-- Whether no item may have a name; `isLink` says that it would be a link. -/
def isReserved (g : Guard) (isLink : Bool) (name : FileName) : Bool :=
  let s := nameText name
  let lower := s.map Char.toLower
  lower = ".git".toList || (isLink && lower = ".gitmodules".toList) ||
    (g.shortForms && (s :: tails s).any fun part =>
      saysKept part || (isLink && saysModules part)) ||
    (g.ignoredChars && (isHidden [".git"] name || (isLink && isHidden [".gitmodules"] name)))

/-- Whether there can be an item at a place. -/
def allows (g : Guard) (isLink : Bool) (p : Place) : Bool :=
  p.all fun name =>
    !isReserved g isLink name && name ≠ [] && name ≠ [dot] && name ≠ [dot, dot]

end GameFixes.Depot.Reserved
