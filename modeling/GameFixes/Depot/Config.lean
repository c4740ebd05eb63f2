import GameFixes.Depot.Glob
import GameFixes.Text.Find
import GameFixes.Text.Utf8

/-!
# Settings of a depot

Every depot has a file of settings. It consists of sections, whose names stand in brackets, and of
names with values in them. Here the name of a setting is that of its section, a dot and its own; the
names of sections may have a second part, which is in quotes and may have any characters in it.
-/

namespace GameFixes.Depot.Config

/-- Settings in the order in which they stand; one may be there without a value. -/
abbrev Settings := List (List Char × Option (List Char))

/-! ### Reading -/

def isKeyChar (c : Char) : Bool := c.isAlphanum || c = '-'

/-- Reads the quoted part of the name of a section, and the bracket behind it. -/
def readQuoted? : List Char → Option (List Char × List Char)
  | '"' :: s => (Text.after? [']'] s).map ([], ·)
  | '\\' :: c :: s =>
    if c = '\n' then none else (readQuoted? s).map fun (t, rest) => (c :: t, rest)
  | c :: s =>
    if c = '\n' || c = '\\' then none else (readQuoted? s).map fun (t, rest) => (c :: t, rest)
  | [] => none

/-- Reads the name of a section behind the bracket that opens it. -/
def readSection? (s : List Char) : Option (List Char × List Char) :=
  let isPlain (c : Char) : Bool := isKeyChar c || c = '.'
  let name := (s.takeWhile isPlain).map Char.toLower
  match s.dropWhile isPlain with
  | ']' :: s => some (name, s)
  | c :: s =>
    if Glob.isSpace c && c ≠ '\n' then
      match s.dropWhile fun c => Glob.isSpace c && c ≠ '\n' with
      | '"' :: s => (readQuoted? s).map fun (t, rest) => (name ++ '.' :: t, rest)
      | _ => none
    else none
  | [] => none

/-- Reads a value up to the end of its line. `out` is the value so far, backwards, and `blanks` are
those behind it, which only count if something follows. -/
def readValue? : (isQuoted : Bool) → (out blanks : List Char) → List Char →
    Option (List Char × List Char)
  | isQuoted, out, _, [] => if isQuoted then none else some (out.reverse, [])
  | isQuoted, out, blanks, c :: s =>
    if c = '\n' then if isQuoted then none else some (out.reverse, s)
    else if !isQuoted && Glob.isSpace c then
      readValue? isQuoted out (if out.isEmpty then [] else c :: blanks) s
    else if !isQuoted && (c = ';' || c = '#') then
      some (out.reverse, (s.dropWhile (· ≠ '\n')).drop 1)
    else if c = '"' then readValue? (!isQuoted) (blanks ++ out) [] s
    else if c = '\\' then
      match s with
      | '\n' :: s => readValue? isQuoted (blanks ++ out) [] s
      | 't' :: s => readValue? isQuoted ('\t' :: blanks ++ out) [] s
      | 'b' :: s => readValue? isQuoted ('\x08' :: blanks ++ out) [] s
      | 'n' :: s => readValue? isQuoted ('\n' :: blanks ++ out) [] s
      | '\\' :: s => readValue? isQuoted ('\\' :: blanks ++ out) [] s
      | '"' :: s => readValue? isQuoted ('"' :: blanks ++ out) [] s
      | _ => none
    else readValue? isQuoted (c :: blanks ++ out) [] s

/-- Reads a name and its value. -/
def readSetting? (s : List Char) : Option (List Char × Option (List Char) × List Char) :=
  let name := (s.takeWhile isKeyChar).map Char.toLower
  match (s.dropWhile isKeyChar).dropWhile fun c => c = ' ' || c = '\t' with
  | [] => some (name, none, [])
  | '\n' :: s => some (name, none, s)
  | '=' :: s => (readValue? false [] [] s).map fun (value, rest) => (name, some value, rest)
  | _ => none

/-- A piece of a text of settings. -/
inductive Piece
  /-- The line that starts a section. -/
  | header (name text : List Char)
  | setting (name : List Char) (value : Option (List Char)) (text : List Char)
  | comment (text : List Char)
  | blank (text : List Char)
  deriving DecidableEq, Repr

/-- The text of a piece. -/
def Piece.text : Piece → List Char
  | .header _ text | .setting _ _ text | .comment text | .blank text => text

/-- What stands in front of the rest of a text. -/
def before (s rest : List Char) : List Char := s.take (s.length - rest.length)

/-- Reads the pieces of a text in a section. -/
def readPieces? : (fuel : Nat) → (sectionName : List Char) → List Char → Option (List Piece)
  | 0, _, s => if s.isEmpty then some [] else none
  | fuel + 1, sectionName, s =>
    match s with
    | [] => some []
    | '[' :: s' =>
      match readSection? s' with
      | some (name, rest) =>
        let rest := (Text.after? ['\n'] rest).getD rest
        (readPieces? fuel name rest).map (.header name (before s rest) :: ·)
      | none => none
    | c :: s' =>
      if Glob.isSpace c then (readPieces? fuel sectionName s').map (.blank [c] :: ·)
      else if c = '#' || c = ';' then
        let text := s.takeWhile (· ≠ '\n')
        (readPieces? fuel sectionName (s.dropWhile (· ≠ '\n'))).map (.comment text :: ·)
      else if c.isAlpha then
        match readSetting? s with
        | some (name, value, rest) =>
          (readPieces? fuel sectionName rest).map
            (.setting (sectionName ++ '.' :: name) value (before s rest) :: ·)
        | none => none
      else none

/-- A text with line feeds in the place of pairs of a carriage return and a line feed. -/
def withFeeds : List Char → List Char
  | '\r' :: '\n' :: s => '\n' :: withFeeds s
  | c :: s => c :: withFeeds s
  | [] => []

/-- The pieces of a file of settings, if it has the form of one. -/
def pieces? (content : List UInt8) : Option (List Piece) :=
  let s := withFeeds (Text.octets content)
  let s := (Text.after? ['\xef', '\xbb', '\xbf'] s).getD s
  readPieces? s.length [] s

/-- The settings that a piece gives. -/
def Piece.setting? : Piece → Option (List Char × Option (List Char))
  | .setting name value _ => some (name, value)
  | .header _ _ | .comment _ | .blank _ => none

/-- The settings in a file, if it has the form of one. -/
def read? (content : List UInt8) : Option Settings :=
  (pieces? content).map (·.filterMap Piece.setting?)

/-- The value of a setting, which is the last that is given to it. -/
def value? (settings : Settings) (name : String) : Option (List Char) :=
  ((settings.filter (·.1 = Text.octets (bytesOf name))).getLast?).bind (·.2)

/-- All values of a setting. -/
def values (settings : Settings) (name : String) : List (List Char) :=
  (settings.filter (·.1 = Text.octets (bytesOf name))).filterMap (·.2)

/-- The whole number that a text says, perhaps with a letter for its unit. -/
def number? (s : List Char) : Option Int :=
  let (isNegative, s) := match s with
    | '-' :: s => (true, s)
    | '+' :: s => (false, s)
    | s => (false, s)
  let digits := s.takeWhile Char.isDigit
  let unit? : Option Nat := match s.dropWhile Char.isDigit with
    | [] => some 1
    | [c] => [('k', 1024), ('m', 1024 * 1024), ('g', 1024 * 1024 * 1024)].lookup c.toLower
    | _ => none
  match (String.ofList digits).toNat?, unit? with
  | some n, some unit => some (if isNegative then -(n * unit : Nat) else (n * unit : Nat))
  | _, _ => none

/-- Whether a text says yes or no. -/
def truth? (s : List Char) : Option Bool :=
  let s := String.ofList (s.map Char.toLower)
  if ["true", "yes", "on"].contains s then some true
  else if ["false", "no", "off", ""].contains s then some false
  else (number? s.toList).map (· ≠ 0)

/-- Whether a setting says yes; it does if it stands there alone. -/
def isOn (settings : Settings) (name : String) : Bool :=
  match (settings.filter (·.1 = Text.octets (bytesOf name))).getLast? with
  | some (_, none) => true
  | some (_, some value) => truth? value = some true
  | none => false

/-- Whether a setting says no in so many words. -/
def isOff (settings : Settings) (name : String) : Bool :=
  ((settings.filter (·.1 = Text.octets (bytesOf name))).getLast?).any fun e =>
    (e.2.bind truth?) = some false

/-! ### Writing -/

/-- A character of a value as it is written. -/
def writtenChar : Char → List Char
  | '\n' => ['\\', 'n']
  | '\t' => ['\\', 't']
  | '"' => ['\\', '"']
  | '\\' => ['\\', '\\']
  | c => [c]

/-- A value as it is written. -/
def writtenValue (value : List Char) : List Char :=
  let text := value.flatMap writtenChar
  let needsQuotes := value.head? = some ' ' || value.getLast? = some ' ' ||
    value.any fun c => c = ';' || c = '#' || c = '\r'
  if needsQuotes then '"' :: text ++ ['"'] else text

/-- A line with a setting. -/
def settingLine (name : String) (value : List Char) : List Char :=
  '\t' :: name.toList ++ " = ".toList ++ writtenValue value ++ ['\n']

/-- A line that starts a section. -/
def sectionLine (name : String) : List Char := '[' :: name.toList ++ "]\n".toList

/-- A line that starts a section whose name has a second part. -/
def partLine (name : String) (part : List Char) : List Char :=
  let escape (c : Char) : List Char := if c = '"' || c = '\\' then ['\\', c] else [c]
  '[' :: name.toList ++ " \"".toList ++ part.flatMap escape ++ "\"]\n".toList

end GameFixes.Depot.Config
