import GameFixes.Depot.Reference

/-!
# New depots

A directory becomes one in which a depot is kept: it gets directories for objects and references,
what a template has, settings, and the branch that counts.
-/

namespace GameFixes.Depot

/-- What a new depot starts with besides what every depot has. -/
inductive Template
  /-- What depots usually start with. -/
  | usual
  | nothing
  /-- What is in a directory. -/
  | directory (path : List UInt8)
  deriving DecidableEq, Repr

/-- How a depot is created. -/
structure CreationPlan where
  /-- The branch that is to count. -/
  branch : List Char
  naming : Naming := .short
  isBare : Bool := false
  template : Template := .usual
  /-- Who else may change it, in a number. -/
  shared : Option (List Char) := none
  /-- The directory that it is about, if that has to be said. -/
  top : Option (List Char) := none
  deriving DecidableEq, Repr

namespace Creation

/-- The directories that are kept in a new depot. -/
def neededDirs : List (List String) :=
  [["objects"], ["objects", "info"], ["objects", "pack"], ["refs"], ["refs", "heads"],
    ["refs", "tags"]]

/-- The directories that depots usually start with besides. -/
def usualDirs : List (List String) := [["branches"], ["hooks"], ["info"]]

/-- The files that depots usually start with besides. -/
def usualFiles : List (List String × String) :=
  [(["description"],
      "Unnamed repository; edit this file 'description' to name the repository.\n"),
    (["info", "exclude"],
      "# git ls-files --others --exclude-from=.git/info/exclude\n" ++
      "# Lines that start with '#' are comments.\n" ++
      "# For a project mostly in C, the following would be a good set of\n" ++
      "# exclude patterns (uncomment them if you want to use them):\n# *.[oa]\n# *~\n")]

/-- The tree with a node at a place, unless something stands there. -/
def putNew (t : Tree) (p : Place) (n : Node) : Tree := if (t.at? p).isSome then t else t.plant p n

/-- The tree with directories in another one, as far as they are not there. -/
def putDirs (kept : Place) (dirs : List (List String)) (t : Tree) : Tree :=
  dirs.foldl (fun t names => putNew t (kept ++ names.map bytesOf) .dir) t

/-- The tree with what a directory has in another one, as far as it is not there. Names with a dot in
front do not count. -/
def putCopies (source kept : Place) (t : Tree) : Tree :=
  (t.under source).foldl (fun t (p, n) =>
    if p.any (·.head? = some dot) then t else putNew t (kept ++ p) n) t

/-- The tree with what a template has in a directory. -/
def putTemplate (s : Site) (template : Template) (kept : Place) (t : Tree) : Tree :=
  match template with
  | .nothing => t
  | .usual =>
    usualFiles.foldl (fun t e =>
      putNew t (kept ++ e.1.map bytesOf) (.file (bytesOf e.2))) (putDirs kept usualDirs t)
  | .directory path =>
    match reach? s.tree s.cwd path with
    | some source => putCopies source kept t
    | none => t

/-- The settings of a new depot, by name. -/
def settingsFor (plan : CreationPlan) : List (String × List Char) :=
  let flag (b : Bool) : List Char := (if b then "true" else "false").toList
  [("core.repositoryformatversion", if plan.naming = .long then ['1'] else ['0'])] ++
    (if plan.naming = .long then [("extensions.objectformat", "sha256".toList)] else []) ++
    [("core.filemode", flag true), ("core.bare", flag plan.isBare)] ++
    (if plan.isBare then [] else [("core.logallrefupdates", flag true)]) ++
    (plan.top.map (("core.worktree", ·))).toList ++
    (match plan.shared with
      | some digits => [("core.sharedrepository", digits),
          ("receive.denyNonFastforwards", flag true)]
      | none => [])

/-- Pieces of settings in which some have other values. -/
def withSettings (l : List (String × List Char)) (pieces : List Config.Piece) :
    List Config.Piece :=
  l.foldl (fun pieces (name, value) =>
    ((Config.Key.ofText? name.toList).bind fun k =>
      Config.set? .all k value pieces).getD pieces) pieces

/-- The tree with a depot that is kept in a directory; what is there already stays. Nothing is done
if there are settings that cannot be read. -/
def create? (s : Site) (kept : Place) (plan : CreationPlan) : Option Site := do
  let t := putTemplate s plan.template kept (putNew s.tree kept .dir)
  let pieces ← match t.at? (kept ++ [configName]) with
    | some (.file content) => Config.pieces? content
    | _ => some []
  let text := Config.textOf (withSettings (settingsFor plan) pieces)
  let t := t.plant (kept ++ [configName]) (.file (Text.ofOctets text))
  let t := putDirs kept neededDirs t
  let head := "ref: ".toList ++ branchStart ++ plan.branch ++ ['\n']
  return { s with tree := putNew t (kept ++ [headName]) (.file (Text.ofOctets head)) }

/-- The number that says who else may change a depot, by a word or a number. -/
def sharedNumber? (text : String) : Option (Option (List Char)) :=
  let s := text.toList
  if ["umask", "false", "0", "no", "off"].contains text then some none
  else if ["group", "true", "1", "", "yes", "on"].contains text then some (some ['1'])
  else if ["all", "world", "everybody", "2"].contains text then some (some ['2'])
  else if s.head? = some '0' && s.all fun c => '0' ≤ c && c ≤ '7' then some (some s)
  else none

end Creation

end GameFixes.Depot
