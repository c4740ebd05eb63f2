import GameFixes.Depot.Location

/-!
# References

The names that a depot has for its objects: branches, tags, and what was last seen of other depots.
A reference lies in a file of its own, or on a line of a file for many of them. It says the name of
an object or that of another reference; the one called `HEAD` says which branch counts.
-/

namespace GameFixes.Depot

/-- The name of a reference. -/
abbrev RefName := List Char

namespace Reference

/-! ### Names -/

def head : RefName := "HEAD".toList
def tagStart : RefName := "refs/tags/".toList
def remoteStart : RefName := "refs/remotes/".toList

/-- Whether a character may be in the name of a reference. -/
def isNameChar (c : Char) : Bool :=
  0x20 < c.toNat && c.toNat ≠ 0x7F && !"~^:?*[\\".toList.contains c

/-- Whether a text may stand between the slashes of the name of a reference. -/
def isNamePart (s : List Char) : Bool :=
  s ≠ [] && s.all isNameChar && s.head? ≠ some '.' && !Text.occurs "..".toList s &&
    !Text.occurs "@\x7b".toList s && (Text.after? ".lock".toList.reverse s.reverse).isNone

/-- Whether there may be a reference with a name. -/
def isName (ref : RefName) : Bool :=
  (Text.splitOn '/' ref).all isNamePart && ref.getLast? ≠ some '.' && ref ≠ ['@']

/-- Whether a name stands before another, or is the same: names have the order of their characters. -/
def isInOrder (a b : RefName) : Bool := !b.lex a fun x y => x.toNat < y.toNat

/-- Whether there may be a branch with a name that somebody asks for. -/
def isBranchName (name : List Char) : Bool :=
  isName (branchStart ++ name) && name.head? ≠ some '-' && name ≠ head

/-- Whether a name is that of a reference which every directory has for itself. -/
def isPrivate (ref : RefName) : Bool :=
  (Text.after? refStart ref).isNone ||
    ["refs/bisect/", "refs/worktree/", "refs/rewritten/"].any fun start =>
      (Text.after? start.toList ref).isSome

/-- The short name of a branch, and that of a reference for people. -/
def branch? (ref : RefName) : Option (List Char) := Text.after? branchStart ref

/-! ### Places -/

/-- The names between the slashes of the name of a reference. -/
def namesOf (ref : RefName) : Place := ((Text.splitOn '/' ref).filter (· ≠ [])).map Text.ofOctets

/-- The file of a reference. -/
def place (l : Location) (ref : RefName) : Place :=
  (if isPrivate ref then l.kept else l.shared) ++ namesOf ref

def packedName : FileName := bytesOf "packed-refs"
def logsName : FileName := bytesOf "logs"

/-- The file that says how a reference has changed. -/
def logPlace (l : Location) (ref : RefName) : Place :=
  (if isPrivate ref then l.kept else l.shared) ++ logsName :: namesOf ref

/-! ### Reading -/

/-- What a reference says. -/
inductive Pointer
  | object (name : ObjectName)
  | reference (ref : RefName)
  deriving DecidableEq, Repr

/-- What is found in the place of a reference. -/
inductive Reading
  | absent
  | broken
  | points (p : Pointer)
  deriving DecidableEq, Repr

/-- What the content of a file says as a reference. -/
def readContent (naming : Naming) (s : List Char) : Reading :=
  match Text.after? "ref:".toList s with
  | some s => .points (.reference (trimmedEnd (s.dropWhile Glob.isSpace)))
  | none =>
    let name := (s.take naming.length).map Char.toLower
    if naming.isName name && (s.drop naming.length).head?.all Glob.isSpace then
      .points (.object (String.ofList name))
    else .broken

/-- The references on the lines of a file, with the objects that they say. -/
def packed (t : Tree) (naming : Naming) (l : Location) : List (RefName × ObjectName) :=
  match t.at? (l.shared ++ [packedName]) with
  | some (.file content) =>
    (Text.splitOn '\n' (Text.octets content)).filterMap fun line =>
      let name := line.take naming.length
      match line.drop naming.length with
      | ' ' :: ref => if naming.isName name then some (trimmedEnd ref, String.ofList name) else none
      | _ => none
  | _ => []

/-- What a reference says. -/
def read (t : Tree) (naming : Naming) (l : Location) (ref : RefName) : Reading :=
  let fallback : Reading :=
    match (packed t naming l).lookup ref with
    | some name => .points (.object name)
    | none => .absent
  match t.at? (place l ref) with
  | some (.file content) => readContent naming (Text.octets content)
  | some (.link target) =>
    if (Text.after? refStart (Text.octets target)).isSome then
      .points (.reference (Text.octets target))
    else
      match contentAt? t (place l ref).dropLast target with
      | some content => readContent naming (Text.octets content)
      | none => fallback
  | some (.sealed _) => .broken
  | some .dir | none => fallback

/-- How many references may lead from one to the next. -/
def stepLimit : Nat := 5

/-- The reference that a reference leads to at last, and the object that it says, if it is there. -/
def follow? (t : Tree) (naming : Naming) (l : Location) :
    (fuel : Nat) → RefName → Option (RefName × Option ObjectName)
  | 0, _ => none
  | fuel + 1, ref =>
    match read t naming l ref with
    | .absent => some (ref, none)
    | .broken => none
    | .points (.object name) => some (ref, some name)
    | .points (.reference next) => if isName next then follow? t naming l fuel next else none

/-- The object that a reference leads to. -/
def object? (t : Tree) (naming : Naming) (l : Location) (ref : RefName) : Option ObjectName :=
  (follow? t naming l stepLimit ref).bind (·.2)

/-- The names of all references under a common start, in order. -/
def all (t : Tree) (naming : Naming) (l : Location) : List RefName :=
  let text (p : Place) : RefName := List.intercalate ['/'] (p.map Text.octets)
  let inFiles (base : Place) : List RefName :=
    (t.under (base ++ [refsName])).filterMap fun (p, n) =>
      if n = .dir then none else some (text (refsName :: p))
  let own := if l.kept = l.shared then [] else (inFiles l.kept).filter isPrivate
  let names := inFiles l.shared ++ own ++ (packed t naming l).map (·.1)
  ((names.filter isName).eraseDups).mergeSort isInOrder

/-! ### Writing -/

/-- The tree in which a file says something about a reference. -/
def putText (t : Tree) (p : Place) (s : List Char) : Tree :=
  -- A directory may be left over from references that are gone.
  (t.clear p).plant p (.file (Text.ofOctets s))

/-- The tree in which a reference says the name of an object. -/
def putObject (t : Tree) (l : Location) (ref : RefName) (name : ObjectName) : Tree :=
  putText t (place l ref) (name.toList ++ ['\n'])

/-- The tree in which a reference says the name of another one. -/
def putReference (t : Tree) (l : Location) (ref target : RefName) : Tree :=
  putText t (place l ref) ("ref: ".toList ++ target ++ ['\n'])

/-- The tree without a file and without the directories around it that hold nothing then, down to a
place. -/
def eraseFile (t : Tree) (base p : Place) : Tree :=
  let dirs := (Tree.around p).reverse.filter fun q => base.length + 1 < q.length
  (dirs.foldl (fun (t, goesOn) q =>
    if goesOn && (t.children q).isEmpty then (t.erase q, true) else (t, false))
    (t.erase p, true)).1

/-- The lines of the file for many references, without one of them. -/
def withoutLine (ref : RefName) : List (List Char) → List (List Char)
  | [] => []
  | line :: lines =>
    if (Text.after? (' ' :: ref).reverse (trimmedEnd line).reverse).isSome then
      lines.dropWhile (·.head? = some '^')
    else line :: withoutLine ref lines

/-- The tree without a reference and what is said about it. -/
def erase (t : Tree) (l : Location) (ref : RefName) : Tree :=
  let base (p : Place) : Place := (if isPrivate ref then l.kept else l.shared) ++ p
  let t := eraseFile t (base [refsName]) (place l ref)
  let t := eraseFile t (base [logsName, refsName]) (logPlace l ref)
  match t.at? (l.shared ++ [packedName]) with
  | some (.file content) =>
    let lines := withoutLine ref (Text.splitOn '\n' (Text.octets content))
    t.put (l.shared ++ [packedName]) (.file (Text.ofOctets (List.intercalate ['\n'] lines)))
  | _ => t

/-- Whether there can be a reference beside others: none of them stands for a directory of its
name, nor it for one of theirs. -/
def fits (refs : List RefName) (ref : RefName) : Bool :=
  !refs.any fun other => other ≠ ref && ((Text.after? (ref ++ ['/']) other).isSome ||
    (Text.after? (other ++ ['/']) ref).isSome)

end Reference

end GameFixes.Depot
