import GameFixes.Depot.Stage
import GameFixes.Path
import GameFixes.Text.Utf8
import GameFixes.Tree.Route

/-!
# Sites

A file tree seen from a working directory, and what can be asked of it and done to it by path. What
is in the sealed files of depots belongs to it too.
-/

namespace GameFixes

/-- A file tree and a working directory in it. -/
structure Site where
  tree : Tree := {}
  cwd : Place := []
  /-- The objects of depots, by the directories in which they are kept. -/
  archives : List (Place × Depot.Archive) := []
  /-- What is staged in depots, by the files in which that is kept. -/
  stages : List (Place × Depot.Stage) := []
  /-- The places of files that may be run. -/
  programs : List Place := []
  deriving DecidableEq, Repr

namespace Site

/-! ### Asking -/

/-- Where a path leads. The empty path leads nowhere, and one with a zero in it is none. -/
def locate (s : Site) (followLast : Bool) (path : List UInt8) : Except Obstacle Landing :=
  if path.isEmpty then .error .missing
  else if pathLimit ≤ path.length || path.contains 0 then .error .name
  else s.tree.walk followLast linkLimit (if isRooted path then [] else s.cwd) (stepsOf path)

/-- The place that a path leads to, if something stands there. -/
def placeOf (s : Site) (path : String) : Except Obstacle Place :=
  match s.locate true (bytesOf path) with
  | .ok (.place p) => .ok p
  | .ok (.free _ _) => .error .missing
  | .error o => .error o

/-- What stands where a path leads. -/
def node (s : Site) (path : String) : Except Obstacle Node :=
  match s.placeOf path with
  | .ok p =>
    match s.tree.at? p with
    | some n => .ok n
    | none => .error .missing
  | .error o => .error o

/-- Whether a path leads to something. -/
def contains (s : Site) (path : String) : Bool := (s.node path).isOk

/-- Whether a path leads to a directory. -/
def isDir (s : Site) (path : String) : Bool :=
  match s.node path with
  | .ok .dir => true
  | _ => false

/-- Whether a path leads to a file. -/
def isFile (s : Site) (path : String) : Bool :=
  match s.node path with
  | .ok n => n.isFile
  | .error _ => false

/-- The bytes of the file that a path leads to. -/
def read? (s : Site) (path : String) : Option (List UInt8) :=
  match s.node path with
  | .ok (.file content) => some content
  | _ => none

/-- The text of the file that a path leads to. -/
def readText? (s : Site) (path : String) : Option String := (s.read? path).bind stringOf?

/-- The names in the directory that a path leads to and what stands there. There are none in a
file, and nothing to list where nothing stands. -/
def list? (s : Site) (path : String) : Option (List (FileName × Node)) :=
  match s.placeOf path with
  | .ok p =>
    match s.tree.at? p with
    | some .dir => some (s.tree.children p)
    | some _ => some []
    | none => none
  | .error _ => none

/-- The objects that are kept in a directory. -/
def archiveAt (s : Site) (p : Place) : Depot.Archive := (s.archives.lookup p).getD {}

/-- What is staged by a file. -/
def stageAt? (s : Site) (p : Place) : Option Depot.Stage := s.stages.lookup p

/-! ### Changing -/

/-- The site in which other objects are kept in a directory. -/
def putArchive (s : Site) (p : Place) (a : Depot.Archive) : Site :=
  { s with archives := (p, a) :: s.archives.filter (·.1 ≠ p) }

/-- The site in which something else is staged by a file. -/
def putStage (s : Site) (p : Place) (stage : Depot.Stage) : Site :=
  { s with stages := (p, stage) :: s.stages.filter (·.1 ≠ p) }

/-- The site in which a file may be run, or not. -/
def setProgram (s : Site) (p : Place) (isProgram : Bool) : Site :=
  { s with programs := (if isProgram then [p] else []) ++ s.programs.filter (· ≠ p) }

/-- A path without the slashes at its end. -/
def withoutSlashes (path : List UInt8) : List UInt8 :=
  (path.reverse.dropWhile (· == slash)).reverse

/-- The directory in which the last step of a path is made. -/
def parentPlace (s : Site) (path : List UInt8) (steps : List Step) : Except Obstacle Place :=
  match s.tree.walk true linkLimit (if isRooted path then [] else s.cwd) steps with
  | .ok (.place p) => if s.tree.at? p = some .dir then .ok p else .error .notDirectory
  | .ok (.free _ _) => .error .missing
  | .error o => .error o

/-- Creates a directory; the one around it must exist. -/
def createDir (s : Site) (path : String) : Except Obstacle Site := do
  let bytes := bytesOf path
  if bytes.isEmpty then .error .missing
  else if pathLimit ≤ bytes.length || bytes.contains 0 then .error .name
  else
    let steps := stepsOf (withoutSlashes bytes)
    match steps.getLast? with
    | none => .error .taken
    | some last =>
      let p ← s.parentPlace bytes steps.dropLast
      match last with
      | .here | .up => .error .taken
      | .into name =>
        if !isName name then .error .name
        else if (s.tree.at? (p ++ [name])).isSome then .error .taken
        else .ok { s with tree := s.tree.put (p ++ [name]) .dir }

/-- Creates the first of some directories, and the later ones, which are around it, as far as they
are missing. What was created stays, also without success. -/
def createWithin (s : Site) : List String → Site × Bool
  | [] => (s, false)
  | path :: around =>
    if path = "" then (s, true)
    else
      match s.createDir path with
      | .ok s => (s, true)
      | .error .missing =>
        match s.createWithin around with
        | (s, false) => (s, false)
        | (s, true) =>
          match s.createDir path with
          | .ok s => (s, true)
          | .error _ => (s, s.isDir path)
      | .error _ => (s, s.isDir path)

/-- Creates a directory and those around it, as far as they are missing. -/
def createDirs (s : Site) (path : String) : Site × Bool := s.createWithin (Path.ancestors path)

/-- Writes a file, which is created if nothing stands there. -/
def write? (s : Site) (path : String) (content : List UInt8) : Option Site :=
  match s.locate true (bytesOf path) with
  | .ok (.place p) =>
    if (s.tree.at? p).any Node.isFile then some { s with tree := s.tree.put p (.file content) }
    else none
  | .ok (.free parent name) =>
    some { s with tree := s.tree.put (parent ++ [name]) (.file content) }
  | .error _ => none

end Site

end GameFixes
