import GameFixes.Depot.Ignore

/-!
# Attributes of paths

The files named `.gitattributes` in the directories of a depot, and one of its own, give attributes
to paths. A line has a pattern and settings behind it. Of the lines about a path the innermost file
counts, in it the last line, and in that the last setting. A bundle is an attribute that brings
others with it.
-/

namespace GameFixes.Depot

namespace Attribute

/-- What an attribute is set to. -/
inductive Setting
  | on
  | off
  /-- As if nothing were said about it. -/
  | unspecified
  | text (value : List Char)
  deriving DecidableEq, Repr

/-- Settings by the names of attributes. -/
abbrev Settings := List (List Char × Setting)

/-- What a line of settings is about. -/
inductive Subject
  | paths (rule : PathRule)
  /-- An attribute that brings the settings with it. -/
  | bundle (name : List Char)
  deriving DecidableEq, Repr

/-- A line of settings. -/
structure Line where
  subject : Subject
  settings : Settings
  deriving DecidableEq, Repr

/-! ### Reading -/

/-- The name of the files with attributes. -/
def fileName : FileName := bytesOf ".gitattributes"

/-- The length that no line with attributes may reach. -/
def lineLimit : Nat := 2048

def isBlank (c : Char) : Bool := c ∈ [' ', '\t', '\r', '\n']

/-- The words of a line. -/
def words (line : List Char) : List (List Char) :=
  (line.splitBy fun a b => isBlank a == isBlank b).filter fun w => !w.any isBlank

/-- Whether an attribute may have a name. -/
def isName (name : List Char) : Bool :=
  name ≠ [] && name.head? ≠ some '-' && (Text.after? "builtin_".toList name).isNone &&
    name.all fun c => c.isAlphanum || c ∈ ['-', '.', '_']

/-- The setting that a word says, with the name of the attribute. -/
def settingOf? (word : List Char) : Option (List Char × Setting) :=
  let name := word.takeWhile (· ≠ '=')
  let (name, setting) := match name, word.drop name.length with
    | '-' :: name, _ => (name, Setting.off)
    | '!' :: name, _ => (name, .unspecified)
    | name, [] => (name, .on)
    | name, _ :: value => (name, .text value)
  if isName name then some (name, setting) else none

/-- The character that a letter behind a backslash stands for in quotes. -/
def escaped? (c : Char) : Option Char :=
  [('a', '\x07'), ('b', '\x08'), ('f', '\x0c'), ('n', '\n'), ('r', '\r'), ('t', '\t'),
    ('v', '\x0b'), ('\\', '\\'), ('"', '"')].lookup c

def octalDigit? (c : Char) : Option Nat :=
  if '0' ≤ c && c ≤ '7' then some (c.toNat - 48) else none

/-- Reads a text up to the quote that closes it; a backslash stands in front of a letter or of three
octal digits. -/
def unquote? : List Char → Option (List Char × List Char)
  | '"' :: s => some ([], s)
  | '\\' :: a :: b :: c :: s =>
    match escaped? a with
    | some d => (unquote? (b :: c :: s)).map fun (t, rest) => (d :: t, rest)
    | none =>
      match octalDigit? a, octalDigit? b, octalDigit? c with
      | some x, some y, some z =>
        if x ≤ 3 then
          (unquote? s).map fun (t, rest) => (Char.ofNat (x * 64 + y * 8 + z) :: t, rest)
        else none
      | _, _, _ => none
  | '\\' :: a :: s =>
    match escaped? a with
    | some d => (unquote? s).map fun (t, rest) => (d :: t, rest)
    | none => none
  | c :: s => (unquote? s).map fun (t, rest) => (c :: t, rest)
  | [] => none

/-- The pattern at the start of a line, and what follows it. -/
def splitPattern (line : List Char) : List Char × List Char :=
  let plain := (line.takeWhile (!isBlank ·), line.dropWhile (!isBlank ·))
  match line with
  | '"' :: s => (unquote? s).getD plain
  | _ => plain

/-- What a line starts with that is about a bundle. -/
def bundleMark : List Char := "[attr]".toList

/-- What the start of a line says that the line is about. Bundles are only defined in the directory
of the depot itself. -/
def subjectOf? (base : Place) (start : List Char) : Option Subject :=
  match Text.after? bundleMark start with
  | some (c :: name) =>
    if base.isEmpty && isName (c :: name) then some (.bundle (c :: name)) else none
  | _ =>
    let rule := PathRule.ofText base start
    if rule.isNegated then none else some (.paths rule)

/-- What a line says. -/
def lineOf? (base : Place) (line : List Char) : Option Line :=
  if lineLimit ≤ line.length then none
  else
    match line.dropWhile isBlank with
    | [] | '#' :: _ => none
    | s =>
      let (start, rest) := splitPattern s
      match subjectOf? base start, (words rest).mapM settingOf? with
      | some subject, some settings => some ⟨subject, settings⟩
      | _, _ => none

/-- The lines of a file in a directory. -/
def linesOf (base : Place) (content : List UInt8) : List Line :=
  (Text.splitOn '\n' (Text.octets (Ignore.withoutMark content))).filterMap fun line =>
    lineOf? base (line.takeWhile (· ≠ '\x00'))

/-- The lines that hold everywhere, unless others say something else. -/
def builtIn : List Line :=
  [⟨.bundle "binary".toList,
    [("diff".toList, .off), ("merge".toList, .off), ("text".toList, .off)]⟩]

/-! ### Settling -/

/-- The settings that the first of some lines gives to a bundle. -/
def bundle? (lines : List Line) (name : List Char) : Option Settings :=
  (lines.find? (·.subject = .bundle name)).map (·.settings)

/-- Adds settings to those that are there already and stay. The last setting comes first. A bundle
that is on brings its settings, to a depth of `fuel`. -/
def fill (lines : List Line) : (fuel : Nat) → Settings → Settings → Settings
  | 0, known, _ => known
  | fuel + 1, known, settings => settings.reverse.foldl (fun known (name, setting) =>
      if (known.lookup name).isSome then known
      else
        let known := known ++ [(name, setting)]
        match setting, bundle? lines name with
        | .on, some more => fill lines fuel known more
        | _, _ => known) known

/-- The settings for a place by lines, of which the first counts most; `folds` says that the size of
letters does not matter. -/
def settle (folds : Bool) (lines : List Line) (p : Place) : Settings :=
  lines.foldl (fun known line =>
    match line.subject with
    | .paths rule =>
      if rule.covers folds p false then fill lines (lines.length + 1) known line.settings else known
    | .bundle _ => known) []

/-- Where files with attributes are looked for, and in which order. -/
abbrev Source := Place → Option (List UInt8)

/-- The lines of files that are not in the directories of a depot. -/
structure Surroundings where
  /-- The lines that count more than those in the directories. -/
  own : List Line := []
  /-- The lines that count less. -/
  general : List Line := []
  /-- Whether the size of letters does not matter. -/
  folds : Bool := false
  deriving DecidableEq, Repr

/-- The lines about a place, the one that counts most first. -/
def linesAbout (s : Surroundings) (source : Source) (p : Place) : List Line :=
  let inside := (Tree.around p).reverse ++ [[]]
  let files := inside.map fun base => ((source (base ++ [fileName])).map (linesOf base)).getD []
  s.own.reverse ++ files.flatMap (·.reverse) ++ s.general.reverse ++ builtIn.reverse

/-- The attributes of a place. -/
def settingsOf (s : Surroundings) (source : Source) (p : Place) : Settings :=
  settle s.folds (linesAbout s source p) p

end Attribute

end GameFixes.Depot
