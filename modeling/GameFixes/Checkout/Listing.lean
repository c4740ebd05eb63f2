import GameFixes.Collection.TextMap
import GameFixes.Files
import GameFixes.FixId
import GameFixes.Script.Source
import GameFixes.Text.Line

/-!
# The checkout

A checkout is a directory of fix groups. A group is a directory whose name starts with a prefix; the
fixes of a group are its scripts, and each has an identifier, the name of its file. Listings do not
depend on the order in which a directory names what it holds.
-/

namespace GameFixes.Checkout

/-- What a directory holds. -/
abbrev Content := List (FileName × Node)

/-- A fix file: its identifier and its path. -/
structure FixFile where
  id : String
  path : String
  deriving DecidableEq, Repr

/-- A fix: the operations of a script. -/
structure FixScript where
  id : String
  group : String
  operations : List Operation
  deriving DecidableEq

/-! ### Groups -/

/-- The name of a group, if this is one. -/
def groupName? (groupPrefix : String) : FileName × Node → Option String
  | (name, .dir) =>
    let name := stringOfLossy name
    if (Text.after? groupPrefix.toList name.toList).isSome then some name else none
  | _ => none

/-- The names of the groups in a directory, in ascending order. -/
def groupNames (groupPrefix : String) (content : Content) : List String :=
  (content.filterMap (groupName? groupPrefix)).mergeSort fun a b => a ≤ b

/-! ### Fix files -/

/-- The extension of fix files. -/
def fixExtension : List UInt8 := bytesOf "py"

/-- Names of files that are no fixes, without their extension. -/
def excludedStems : List String := ["default", "__init__", "winetricks-gui"]

/-- A name without its extension, and the extension; a dot at the start of a name is part of it. -/
def splitExtension (name : FileName) : FileName × Option (List UInt8) :=
  let after := (name.reverse.takeWhile (· ≠ dot)).reverse
  match name.take (name.length - after.length - 1) with
  | [] => (name, none)
  | stem => (stem, some after)

/-- The fix file that this is, if it is one. -/
def fixFile? (dir idPrefix : String) : FileName × Node → Option FixFile
  | (name, node) =>
    match splitExtension name with
    | (stem, some extension) =>
      if node.isFile && extension = fixExtension then
        match stringOf? stem with
        | some stem =>
          if excludedStems.contains stem then none
          else some ⟨plainId idPrefix stem, Path.join dir (stem ++ ".py")⟩
        | none => none
      else none
    | (_, none) => none

/-- The fix files in a directory, in ascending order of their identifiers. -/
def fixFilesIn (dir idPrefix : String) (content : Content) : List FixFile :=
  (content.filterMap (fixFile? dir idPrefix)).mergeSort fun a b => a.id ≤ b.id

/-! ### Reading -/

/-- What the directory at a path holds. -/
def contentOf (s : Site) (dir : String) : Except Failure Content :=
  match s.list? dir with
  | some content => .ok content
  | none => .error (.walk dir)

/-- The groups of a checkout. -/
def groups (s : Site) (fixesDir groupPrefix : String) : Except Failure (List String) :=
  (contentOf s fixesDir).map (groupNames groupPrefix)

/-- The fix files of a group. -/
def fixFiles (s : Site) (groupDir idPrefix : String) : Except Failure (List FixFile) :=
  (contentOf s groupDir).map (fixFilesIn groupDir idPrefix)

/-- The identifiers of the fixes of a group. -/
def fixIds (s : Site) (groupDir idPrefix : String) : Except Failure (List String) :=
  (fixFiles s groupDir idPrefix).map (·.map (·.id))

/-- The fix in a fix file. -/
def readScript (s : Site) (group : String) (file : FixFile) : Except Failure FixScript :=
  (textOf s file.path).map fun text => ⟨file.id, group, Script.operations text⟩

/-- The fixes of a group. -/
def scripts (s : Site) (fixesDir group idPrefix : String) : Except Failure (List FixScript) := do
  (← fixFiles s (Path.join fixesDir group) idPrefix).mapM (readScript s group)

/-! ### Identifiers -/

/-- The identifiers that a text lists, one on a line; blanks around them and blank lines are
nothing. -/
def listedIds (text : String) : List String :=
  (((Text.lines text.toList).map Text.trim).filter (!·.isEmpty)).map String.ofList

/-- The identifiers listed in a file. -/
def extraIds (s : Site) (path : String) : Except Failure (List String) :=
  (textOf s path).map listedIds

/-- The identifiers of all fixes of a checkout, and those of a list if there is one. -/
def allIds (s : Site) (fixesDir groupPrefix idPrefix : String) (extra : Option String) :
    Except Failure TextSet := do
  let ids ← (← groups s fixesDir groupPrefix).mapM fun group =>
    fixIds s (Path.join fixesDir group) idPrefix
  let listed ← match extra with
    | some path => extraIds s path
    | none => pure []
  return TextSet.ofList (ids.flatten ++ listed)

end GameFixes.Checkout
