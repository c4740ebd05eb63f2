import GameFixes.Tree.Node

/-!
# Routes

A path as the steps that it asks for, and where they lead in a tree. Links on the way are followed,
but not more than forty of them.
-/

namespace GameFixes

/-- A step from one place to the next. -/
inductive Step
  /-- Stays, but only in a directory. -/
  | here
  /-- Goes to the directory around. -/
  | up
  /-- Goes to a name in the directory. -/
  | into (name : FileName)
  deriving DecidableEq, Repr

/-- The byte between the names of a path. -/
def slash : UInt8 := 0x2F

/-- The byte that two special names consist of. -/
def dot : UInt8 := 0x2E

/-- The texts between the slashes of a path. -/
def pathParts : List UInt8 → List (List UInt8)
  | [] => [[]]
  | b :: bs =>
    if b = slash then [] :: pathParts bs
    else
      match pathParts bs with
      | [] => [[b]]
      | part :: parts => (b :: part) :: parts

/-- The step that a part of a path asks for; nothing between two slashes asks for none. -/
def stepOf? (part : List UInt8) : Option Step :=
  if part = [] then none
  else if part = [dot] then some .here
  else if part = [dot, dot] then some .up
  else some (.into part)

/-- The steps of a path; a slash at its end asks for a directory. -/
def stepsOf (path : List UInt8) : List Step :=
  let steps := (pathParts path).filterMap stepOf?
  if path.getLast? = some slash && !steps.isEmpty then steps ++ [.here] else steps

/-- Whether a path starts at the root. -/
def isRooted (path : List UInt8) : Bool := path.head? == some slash

/-- What stands in the way of a path. -/
inductive Obstacle
  /-- Nothing stands where the path leads. -/
  | missing
  /-- Something that is no directory stands on the way. -/
  | notDirectory
  /-- There are too many links on the way. -/
  | links
  /-- A name is too long, or no name, or the whole path is too long. -/
  | name
  /-- Something stands already where a directory is to be created. -/
  | taken
  deriving DecidableEq, Repr

/-- Where a path leads. -/
inductive Landing
  /-- Something stands there. -/
  | place (p : Place)
  /-- Nothing stands there, but its directory does. -/
  | free (parent : Place) (name : FileName)
  deriving DecidableEq, Repr

/-- The length that no path may reach. -/
def pathLimit : Nat := 4096

/-- Whether there can be a name of these bytes. -/
def isName (name : FileName) : Bool := name.length ≤ 255 && !name.contains 0

/-- How many links may be followed on one path. -/
def linkLimit : Nat := 40

/-- Where steps lead from a place, following at most `budget` links. The last step follows a link
only on request. -/
def Tree.walk (t : Tree) (followLast : Bool) :
    (budget : Nat) → Place → List Step → Except Obstacle Landing
  | _, p, [] => .ok (.place p)
  | budget, p, .here :: steps => t.walk followLast budget p steps
  | budget, p, .up :: steps => t.walk followLast budget p.dropLast steps
  | budget, p, .into name :: steps =>
    if !isName name then .error .name
    else
      match t.at? (p ++ [name]) with
      | none => if steps.isEmpty then .ok (.free p name) else .error .missing
      | some .dir => t.walk followLast budget (p ++ [name]) steps
      | some (.file _) | some (.sealed _) =>
        if steps.isEmpty then .ok (.place (p ++ [name])) else .error .notDirectory
      | some (.link target) =>
        if steps.isEmpty && !followLast then .ok (.place (p ++ [name]))
        else if target.isEmpty then .error .missing
        else
          match budget with
          | 0 => .error .links
          | budget + 1 =>
            -- A link is left through its target, from the root or from its own directory.
            t.walk followLast budget (if isRooted target then [] else p) (stepsOf target ++ steps)
  termination_by budget _ steps => (budget, steps.length)

end GameFixes
