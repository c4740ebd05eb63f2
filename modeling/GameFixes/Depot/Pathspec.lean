import GameFixes.Depot.Location
import GameFixes.Depot.PathRule

/-!
# Paths of commands

What a path that a command is given stands for among the places of a depot: itself, what lies in it,
and what it is a pattern for. A path may start with signs or words that say how it is to be taken, and
some paths say what is not meant.
-/

namespace GameFixes.Depot

/-- How a path of a command is to be taken. -/
structure PathManner where
  /-- Whether what it stands for is not meant. -/
  isExcluding : Bool := false
  /-- Whether the size of letters does not matter. -/
  folds : Bool := false
  /-- Whether it is no pattern. -/
  isLiteral : Bool := false
  /-- Whether its wildcards do not stand for slashes. -/
  byName : Bool := false
  /-- Whether it starts at the directory of the depot. -/
  fromTop : Bool := false
  deriving DecidableEq, Repr

/-- What a path of a command stands for. -/
structure Pathspec where
  /-- The path as seen from the directory of the depot; nothing, if it is that directory. -/
  place : Place
  /-- Whether the path ends with a slash, so that only a directory can be meant. -/
  isDir : Bool := false
  manner : PathManner := {}
  deriving DecidableEq, Repr

namespace Pathspec

/-- How a path stands for a place; the later the better. -/
inductive Match
  | inside
  | pattern
  | exact
  deriving DecidableEq, Repr

/-! ### Reading -/

/-- The place that steps lead to from another one, without a look at what stands on the way. -/
def follow (p : Place) (steps : List Step) : Place :=
  steps.foldl (fun p step =>
    match step with
    | .here => p
    | .up => p.dropLast
    | .into name => p ++ [name]) p

/-- The signs that may say something about a path, behind a colon. -/
def isSign (c : Char) : Bool := "!\"#%&',-/:;<=>@_`~".toList.contains c

/-- Reads the signs behind the colon that a path starts with. -/
def readSigns? (m : PathManner) : List Char → Option (PathManner × List Char)
  | [] => some (m, [])
  | ':' :: s => some (m, s)
  | '^' :: s | '!' :: s => readSigns? { m with isExcluding := true } s
  | '/' :: s => readSigns? { m with fromTop := true } s
  | c :: s => if isSign c then none else some (m, c :: s)

/-- The manner with what a word says about it. -/
def withWord? (m : PathManner) (word : List Char) : Option PathManner :=
  match String.ofList word with
  | "" => some m
  | "top" => some { m with fromTop := true }
  | "literal" => some { m with isLiteral := true }
  | "glob" => some { m with byName := true }
  | "icase" => some { m with folds := true }
  | "exclude" => some { m with isExcluding := true }
  | _ => none

/-- Reads what a path starts with that says how it is to be taken. -/
def readManner? (s : List Char) : Option (PathManner × List Char) :=
  match s with
  | ':' :: '(' :: s =>
    match Text.splitFirst? [')'] s with
    | some (words, rest) => ((Text.splitOn ',' words).foldlM withWord? {}).map (·, rest)
    | none => none
  | ':' :: s => readSigns? {} s
  | s => some ({}, s)

/-- What variables say about the paths of all commands. -/
structure Habits where
  isLiteral : Bool := false
  byName : Bool := false
  isPlain : Bool := false
  folds : Bool := false

/-- What the variables of a process say about paths. -/
def Habits.ofEnvironment (env : Environment) : Habits :=
  let isOn (name : String) : Bool :=
    (env.get? ("GIT_" ++ name ++ "_PATHSPECS")).any fun v => Config.truth? v.toList = some true
  ⟨isOn "LITERAL", isOn "GLOB", isOn "NOGLOB", isOn "ICASE"⟩

/-- The manner of one path with what is said about all. -/
def Habits.adjust? (h : Habits) (m : PathManner) : Option PathManner :=
  let byName := m.byName || (h.byName && !m.isLiteral)
  let isLiteral := h.isLiteral || m.isLiteral || (h.isPlain && !m.byName)
  if byName && isLiteral then none
  else some { m with byName := byName, isLiteral := isLiteral, folds := m.folds || h.folds }

/-- What a path stands for in a depot that is about a directory; `cwd` is where it is seen from. It
must not lead out of that directory. -/
def ofPath? (h : Habits) (top cwd : Place) (path : List UInt8) : Option Pathspec := do
  let s := Text.octets path
  if s = [] then none
  else
    let (m, s) ← if h.isLiteral then some ({}, s) else readManner? s
    let m ← h.adjust? m
    let path := Text.ofOctets s
    let base := if m.fromTop then top else if isRooted path then [] else cwd
    let p := follow base (stepsOf path)
    if top.isPrefixOf p then some ⟨p.drop top.length, path.getLast? = some slash, m⟩ else none

/-! ### Matching -/

/-- How a path stands for a place, where a directory is if `isDir`. -/
def match? (s : Pathspec) (p : Place) (isDir : Bool) : Option Match :=
  let text := PathRule.folded s.manner.folds (placeText s.place)
  let name := PathRule.folded s.manner.folds (placeText p)
  if text = name && p ≠ [] && (isDir || !s.isDir) then some .exact
  else if text = [] || (Text.after? (text ++ ['/']) name).isSome then some .inside
  else if !s.manner.isLiteral && text.any Glob.isSpecial then
    let text := if s.isDir then text ++ ['/'] else text
    let name := if s.isDir && isDir then name ++ ['/'] else name
    match Text.after? (Glob.plainStart text) name with
    | some rest =>
      if Glob.covers s.manner.byName (text.drop (Glob.plainStart text).length) rest then
        some .pattern
      else none
    | none => none
  else none

/-- Whether a path stands for a place. -/
def covers (s : Pathspec) (p : Place) (isDir : Bool) : Bool := (s.match? p isDir).isSome

/-- The paths that say what is meant; all is meant if others only say what is not. -/
def meaning (specs : List Pathspec) : List Pathspec :=
  let l := specs.filter (!·.manner.isExcluding)
  if l.isEmpty && !specs.isEmpty then [⟨[], false, {}⟩] else l

/-- Whether a place is meant by some paths. -/
def anyCovers (specs : List Pathspec) (p : Place) (isDir : Bool) : Bool :=
  (meaning specs).any (·.covers p isDir) &&
    !specs.any fun s => s.manner.isExcluding && s.covers p isDir

/-- Whether a place is meant by some paths, or there are none. -/
def admits (specs : List Pathspec) (p : Place) (isDir : Bool) : Bool :=
  specs.isEmpty || anyCovers specs p isDir

end Pathspec

end GameFixes.Depot
