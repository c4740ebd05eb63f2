import GameFixes.Depot.Opening
import GameFixes.Depot.Tool.Words
import GameFixes.Depot.Work

/-!
# Commands

A command of the version control tool changes a site, says something, and is done or refused. Most
commands work on the depot that is meant in the working directory.
-/

namespace GameFixes.Depot.Tool

/-- What comes of a command. -/
structure Outcome where
  site : Site
  isDone : Bool
  said : String := ""
  deriving DecidableEq, Repr

/-- A command, with the variables and the words behind its name. -/
abbrev Command := Site → Environment → List String → Outcome

namespace Outcome

/-- The outcome of a command that is refused. -/
def refused (s : Site) : Outcome := ⟨s, false, ""⟩

/-- The outcome of a command that changes nothing. -/
def nothing (s : Site) : Outcome := ⟨s, true, ""⟩

end Outcome

/-- The depot as it is seen by a command that works in its directory: from within it. -/
def seenInside (w : Workspace) : Workspace :=
  match w.location.top with
  | some top => if top.isPrefixOf w.site.cwd then w else { w with site := { w.site with cwd := top } }
  | none => w

/-- What comes of work on a depot; the working directory is `cwd` afterwards. -/
def outcomeOf (cwd : Place) (work : Work Unit) (w : Workspace) : Outcome :=
  let (after, isDone) := work.runOn w
  ⟨{ after.site with cwd := cwd }, isDone, after.said⟩

/-- Does work on the depot that is meant in the working directory; if `needsTop`, it has to be about
a directory. -/
def onDepot (needsTop : Bool) (s : Site) (env : Environment) (work : Work Unit) : Outcome :=
  match Workspace.ofSite? s env with
  | none => .refused s
  | some w => outcomeOf s.cwd (do Work.need (w.location.top.isSome || !needsTop); work)
      (if needsTop then seenInside w else w)

/-- A command with options that works on a depot. -/
def command (needsTop : Bool) (rules : String) (work : Words → Work Unit) : Command :=
  fun s env args =>
    onDepot needsTop s env do
      let words ← Work.given (words? rules args)
      work words

/-- A command that asks something and changes nothing. -/
def question (needsTop : Bool) (rules : String) (answer : Words → Workspace → Bool) : Command :=
  command needsTop rules fun words => do Work.need (← Work.ask (answer words))

/-! ### Paths in files -/

/-- The text that a quoted line stands for, or the line itself. -/
def unquoted (line : List Char) : List Char :=
  match line with
  | '"' :: rest => unescaped (rest.take (rest.length - 1))
  | line => line
where
  /-- The text without its backslashes. -/
  unescaped : List Char → List Char
    | '\\' :: a :: b :: c :: s =>
      if a.isDigit && b.isDigit && c.isDigit then
        Char.ofNat (((a.toNat - 48) * 8 + (b.toNat - 48)) * 8 + (c.toNat - 48)) :: unescaped s
      else letter a :: unescaped (b :: c :: s)
    | '\\' :: a :: s => letter a :: unescaped s
    | c :: s => c :: unescaped s
    | [] => []
    termination_by s => s.length
  /-- The character that a letter behind a backslash stands for. -/
  letter (c : Char) : Char :=
    ([('n', '\n'), ('t', '\t'), ('r', '\r'), ('a', '\x07'), ('b', '\x08'), ('f', '\x0c'),
      ('v', '\x0b')].lookup c).getD c

/-- The paths that a file lists, one a line, or separated by zeros. -/
def pathsIn? (s : Site) (name : String) (isNul : Bool) : Option (List String) :=
  match if name = "-" then some [] else s.read? name with
  | some content =>
    let text := Text.octets content
    let lines := if isNul then Text.splitOn '\x00' text else
      (Text.splitOn '\n' text).map fun line =>
        unquoted ((Text.dropLast? '\r' line).getD line)
    let lines := if lines.getLast? = some [] then lines.dropLast else lines
    some (lines.map fun line => stringOfLossy (Text.ofOctets line))
  | none => none

/-- The paths that a command is given, by words or in a file. -/
def pathsGiven (words : Words) (paths : List String) : Work (List String) := do
  match words.value? "pathspec-from-file" with
  | some name =>
    Work.need paths.isEmpty
    Work.demand fun w => pathsIn? w.site name (words.has "pathspec-file-nul")
  | none =>
    Work.need (!words.has "pathspec-file-nul")
    return paths

/-- What the paths that a command is given stand for. -/
def specsGiven (words : Words) (paths : List String) : Work (List Pathspec) := do
  let paths ← pathsGiven words paths
  Work.demand (·.pathspecs? paths)

/-- The options about paths in files. -/
def pathRules : String := " pathspec-from-file= pathspec-file-nul"

end GameFixes.Depot.Tool
