/-!
# Name patterns

Patterns with wildcards for paths. `?` stands for one character, `*` for any number of them and a
set in brackets for one of its members; a backslash takes its character as it is. None of the
wildcards stands for a slash, except that `**` between slashes does, and that all of them do where
slashes have no meaning. A pattern that breaks off in the middle stands for nothing.
-/

namespace GameFixes.Depot.Glob

/-- What a set in brackets holds. -/
inductive Member
  | one (c : Char)
  | range (first last : Char)
  /-- The characters of a class that has a name. -/
  | named (isMember : Char → Bool)

/-- What a part of a pattern stands for. -/
inductive Part
  | char (c : Char)
  /-- One character. -/
  | any
  /-- Characters without a slash. -/
  | within
  /-- Any characters. -/
  | across
  /-- Nothing, or any characters and a slash. -/
  | directories
  | set (isNegated : Bool) (members : List Member)

/-! ### Sets -/

def isPrintable (c : Char) : Bool := 0x20 ≤ c.toNat && c.toNat < 0x7F
def isControl (c : Char) : Bool := c.toNat < 0x20 || c.toNat = 0x7F
def isGraphic (c : Char) : Bool := isPrintable c && c ≠ ' '
def isHexDigit (c : Char) : Bool :=
  c.isDigit || ('a' ≤ c && c ≤ 'f') || ('A' ≤ c && c ≤ 'F')
def isSpace (c : Char) : Bool := c ∈ [' ', '\t', '\n', '\r', '\x0b', '\x0c']

/-- The classes of ASCII characters that have a name. -/
def namedClasses : List (List Char × (Char → Bool)) :=
  [("alnum".toList, Char.isAlphanum), ("alpha".toList, Char.isAlpha),
    ("blank".toList, fun c => c = ' ' || c = '\t'), ("cntrl".toList, isControl),
    ("digit".toList, Char.isDigit), ("graph".toList, isGraphic), ("lower".toList, Char.isLower),
    ("print".toList, isPrintable),
    ("punct".toList, fun c => isGraphic c && !c.isAlphanum), ("space".toList, isSpace),
    ("upper".toList, Char.isUpper), ("xdigit".toList, isHexDigit)]

/-- Whether a character is a member. -/
def Member.contains (c : Char) : Member → Bool
  | .one a => c = a
  | .range a b => a ≤ c && c ≤ b
  | .named isMember => isMember c

/-- Reads the members of a set up to the bracket that closes it; `last` is the character that a
range may start with. At least one member is read, so that a bracket that comes first is one. -/
def readMembers? : (fuel : Nat) → (isFirst : Bool) → (last : Option Char) → List Char →
    Option (List Member × List Char)
  | 0, _, _, _ => none
  | fuel + 1, isFirst, last, s =>
    let go (m : Member) (last : Option Char) (s : List Char) :=
      (readMembers? fuel false last s).map fun (ms, rest) => (m :: ms, rest)
    match s, last with
    | [], _ => none
    | ']' :: s, _ => if isFirst then go (.one ']') (some ']') s else some ([], s)
    | '\\' :: s, _ =>
      match s with
      | [] => none
      | c :: s => go (.one c) (some c) s
    | '[' :: ':' :: s, _ =>
      let name := s.takeWhile (· ≠ ']')
      match s.dropWhile (· ≠ ']') with
      | [] => none
      | _ :: rest =>
        if name.getLast? = some ':' then
          match namedClasses.lookup name.dropLast with
          | some isMember => go (.named isMember) none rest
          | none => none
        else go (.one '[') (some '[') (':' :: s)
    | '-' :: c :: s, some a =>
      if c = ']' then go (.one '-') (some '-') (c :: s)
      else if c = '\\' then
        match s with
        | [] => none
        | c :: s => go (.range a c) none s
      else go (.range a c) none s
    | c :: s, _ => go (.one c) (some c) s

/-- Reads a set behind the bracket that opens it. -/
def readSet? (s : List Char) : Option (Part × List Char) :=
  match s with
  | '!' :: s | '^' :: s =>
    (readMembers? (s.length + 1) true none s).map fun (ms, rest) => (.set true ms, rest)
  | s => (readMembers? (s.length + 1) true none s).map fun (ms, rest) => (.set false ms, rest)

/-! ### Reading -/

/-- Whether a rest of a pattern starts a new name, or nothing. -/
def startsName : List Char → Bool
  | [] | '/' :: _ | '\\' :: '/' :: _ => true
  | _ => false

/-- Reads a pattern. `byName` says whether slashes separate names, and `isStart` whether a name
starts here. -/
def readWithin? (byName : Bool) : (fuel : Nat) → (isStart : Bool) → List Char → Option (List Part)
  | 0, _, s => if s.isEmpty then some [] else none
  | fuel + 1, isStart, s =>
    match s with
    | [] => some []
    | ['\\'] => none
    | '\\' :: c :: s => (readWithin? byName fuel (c = '/') s).map (.char c :: ·)
    | '?' :: s => (readWithin? byName fuel false s).map (.any :: ·)
    | '[' :: s =>
      match readSet? s with
      | some (part, s) => (readWithin? byName fuel false s).map (part :: ·)
      | none => none
    | '*' :: s =>
      let rest := s.dropWhile (· = '*')
      if !byName then (readWithin? byName fuel false rest).map (.across :: ·)
      else if s.head? = some '*' && isStart && startsName rest then
        match rest with
        | '/' :: rest => (readWithin? byName fuel true rest).map (.directories :: ·)
        | _ => (readWithin? byName fuel false rest).map (.across :: ·)
      else (readWithin? byName fuel false rest).map (.within :: ·)
    | c :: s => (readWithin? byName fuel (c = '/') s).map (.char c :: ·)

/-- Reads a pattern. -/
def read? (byName : Bool) (pattern : List Char) : Option (List Part) :=
  readWithin? byName pattern.length true pattern

/-! ### Matching -/

/-- A text, and what is left of it when characters of a kind are taken away from its start. -/
def rests (p : Char → Bool) : List Char → List (List Char)
  | [] => [[]]
  | c :: s => (c :: s) :: if p c then rests p s else []

/-- What follows the slashes of a text. -/
def afterSlashes : List Char → List (List Char)
  | [] => []
  | c :: s => if c = '/' then s :: afterSlashes s else afterSlashes s

/-- Whether parts stand for a text. -/
def accepts (byName : Bool) : List Part → List Char → Bool
  | [], s => s.isEmpty
  | .char a :: parts, s =>
    match s with
    | c :: s => c = a && accepts byName parts s
    | [] => false
  | .any :: parts, s =>
    match s with
    | c :: s => !(byName && c = '/') && accepts byName parts s
    | [] => false
  | .set isNegated members :: parts, s =>
    match s with
    | c :: s =>
      !(byName && c = '/') && (members.any (·.contains c) != isNegated) && accepts byName parts s
    | [] => false
  | .within :: parts, s => (rests (· ≠ '/') s).any (accepts byName parts)
  | .across :: parts, s => (rests (fun _ => true) s).any (accepts byName parts)
  | .directories :: parts, s => (s :: afterSlashes s).any (accepts byName parts)

/-- Whether a pattern stands for a text. -/
def covers (byName : Bool) (pattern s : List Char) : Bool :=
  match read? byName pattern with
  | some parts => accepts byName parts s
  | none => false

/-- Whether a character of a pattern is none that stands for itself. -/
def isSpecial (c : Char) : Bool := c ∈ ['*', '?', '[', '\\']

/-- The part of a pattern in front of its first special character. -/
def plainStart (pattern : List Char) : List Char := pattern.takeWhile (!isSpecial ·)

end GameFixes.Depot.Glob
