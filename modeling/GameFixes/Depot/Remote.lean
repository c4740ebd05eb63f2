import GameFixes.Depot.RefLog

/-!
# Remotes

The settings of a depot say where other depots are, which of their references it looks at, and under
which names of its own it remembers them.
-/

namespace GameFixes.Depot

/-- A rule that gives the references of one depot names in another one. -/
structure RefRule where
  /-- Whether a reference may go back. -/
  isForced : Bool := false
  /-- Whether the references are those that are left out. -/
  isNegated : Bool := false
  source : List Char
  /-- Nothing, if there is no name for them. -/
  target : Option (List Char)
  deriving DecidableEq, Repr

namespace RefRule

/-- The parts of a text before and after its star, if there is one. -/
def atStar? (s : List Char) : Option (List Char × List Char) := Text.splitFirst? ['*'] s

/-- The rule that a text says. -/
def ofText? (s : List Char) : Option RefRule :=
  let (isNegated, s) := match s with
    | '^' :: s => (true, s)
    | s => (false, s)
  let (isForced, s) := match s with
    | '+' :: s => (true, s)
    | s => (false, s)
  let source := s.takeWhile (· ≠ ':')
  let target : Option (List Char) := match s.drop source.length with
    | [] => none
    | _ :: target => some target
  let stars (t : List Char) : Nat := t.count '*'
  let isSound := stars source ≤ 1 && (target.all fun t =>
    t = [] || stars t = stars source) && (!isNegated || target.isNone)
  if isSound then some ⟨isForced, isNegated, source, target⟩ else none

/-- What stands for the star of a pattern in a name, if the name fits. -/
def starIn? (pattern name : List Char) : Option (List Char) :=
  match atStar? pattern with
  | some (before, behind) =>
    match Text.after? before name with
    | some rest => (Text.after? behind.reverse rest.reverse).map List.reverse
    | none => none
  | none => if pattern = name then some [] else none

/-- A pattern with something in the place of its star. -/
def filled (pattern star : List Char) : List Char :=
  match atStar? pattern with
  | some (before, behind) => before ++ star ++ behind
  | none => pattern

/-- The name that a rule gives to a reference. -/
def image? (r : RefRule) (ref : RefName) : Option RefName :=
  match starIn? r.source ref, r.target with
  | some star, some target => if r.isNegated || target = [] then none else some (filled target star)
  | _, _ => none

/-- Whether a rule is about a reference. -/
def covers (r : RefRule) (ref : RefName) : Bool := (starIn? r.source ref).isSome

end RefRule

namespace Workspace

/-! ### Settings about remotes -/

/-- What a setting of a remote or a branch is called. -/
def partSetting (group : String) (part : List Char) (last : String) : String :=
  group ++ "." ++ stringOfLossy (Text.ofOctets part) ++ "." ++ last

/-- The values of a setting of a remote. -/
def remoteValues (w : Workspace) (remote : List Char) (last : String) : List (List Char) :=
  Config.values w.settings (partSetting "remote" remote last)

/-- The value of a setting of a branch. -/
def branchValue? (w : Workspace) (branch : List Char) (last : String) : Option (List Char) :=
  Config.value? w.settings (partSetting "branch" branch last)

/-- The remotes that there are settings for. -/
def remotes (w : Workspace) : List (List Char) :=
  (w.settings.filterMap fun e =>
    (Text.after? "remote.".toList e.1).bind fun rest =>
      match (Text.splitOn '.' rest).dropLast with
      | [] => none
      | parts => some (List.intercalate ['.'] parts)).eraseDups

/-- An address in which the start is replaced if a setting says so; the longest start counts. -/
def rewritten (w : Workspace) (last : String) (address : List Char) : List Char :=
  let found := w.settings.filterMap fun e =>
    match Text.after? "url.".toList e.1, e.2 with
    | some rest, some start =>
      match Text.after? ('.' :: last.toList).reverse rest.reverse with
      | some base => (Text.after? start address).map fun tail =>
        (start.length, base.reverse ++ tail)
      | none => none
    | _, _ => none
  match (found.mergeSort fun a b => b.1 ≤ a.1).head? with
  | some (_, address) => address
  | none => address

/-- The address of a remote; a name without settings is an address. -/
def addressOf (w : Workspace) (remote : List Char) : List Char :=
  w.rewritten "insteadof" ((w.remoteValues remote "url").head?.getD remote)

/-- The rules for the references of a remote, if all of them are sound. -/
def fetchRules? (w : Workspace) (remote : List Char) : Option (List RefRule) :=
  (w.remoteValues remote "fetch").mapM RefRule.ofText?

/-- The remote that a branch belongs to. -/
def remoteOf (w : Workspace) (branch : Option (List Char)) : List Char :=
  ((branch.bind (w.branchValue? · "remote"))).getD "origin".toList

/-- The reference of its remote that a branch follows. -/
def followed? (w : Workspace) (branch : List Char) : Option RefName := w.branchValue? branch "merge"

/-- The reference that remembers what a branch follows. -/
def tracked? (w : Workspace) (branch : List Char) : Option RefName := do
  let remote ← w.branchValue? branch "remote"
  let ref ← w.followed? branch
  if remote = ['.'] then return ref
  else (← w.fetchRules? remote).findSome? (·.image? ref)

end Workspace

end GameFixes.Depot
