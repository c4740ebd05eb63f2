import GameFixes.Depot.Workspace

/-!
# Depots as commands find them

A command works on the depot that is meant in the working directory. Its settings come from those of
the person, its own and what variables say; commands do not work where one of them says nothing that
makes sense.
-/

namespace GameFixes.Depot.Config

/-- The settings that say yes or no. -/
def truths : List String :=
  ["filemode", "ignorecase", "symlinks", "bare", "quotepath", "trustctime", "protecthfs",
    "protectntfs", "warnambiguousrefs", "sparsecheckout", "precomposeunicode", "prefersymlinkrefs",
    "preloadindex", "ignorestat", "usereplacerefs"].map ("core." ++ ·) ++
    ["user.useconfigonly", "feature.manyfiles"]

/-- The settings that say yes, no or one of some words. -/
def choices : List (String × List String) :=
  [("core.autocrlf", ["input"]), ("core.safecrlf", ["warn"]),
    ("core.logallrefupdates", ["always"]), ("branch.autosetupmerge", ["always", "inherit", "simple"])]

/-- The settings that say one of some words. -/
def wordChoices : List (String × List String) :=
  [("push.default", ["nothing", "matching", "simple", "upstream", "tracking", "current"]),
    ("branch.autosetuprebase", ["never", "local", "remote", "always"]),
    ("core.createobject", ["rename", "link"])]

/-- The settings that say a number. -/
def numbers : List String :=
  ["core.bigfilethreshold", "core.packedgitlimit", "core.packedgitwindowsize",
    "core.deltabasecachelimit", "index.version"]

/-- Whether a setting says something that makes sense. -/
def isSound (e : List Char × Option (List Char)) : Bool :=
  let name := String.ofList e.1
  let fits (value : List Char) (words : List String) : Bool :=
    words.contains (String.ofList (value.map Char.toLower))
  match e.2 with
  | none => !(wordChoices.any (·.1 = name) || numbers.contains name || name = "core.abbrev" ||
      name = "user.name" || name = "user.email")
  | some value =>
    if truths.contains name || (Text.after? "advice.".toList e.1).isSome then (truth? value).isSome
    else
      match choices.lookup name, wordChoices.lookup name with
      | some words, _ => fits value words || (truth? value).isSome
      | none, some words => words.contains (String.ofList value)
      | none, none =>
        if numbers.contains name then (number? value).isSome
        else if name = "core.abbrev" then
          fits value ["auto", "no", "off", "false"] ||
            (number? value).any fun n => 4 ≤ n && n ≤ 64
        else if name = "core.compression" || name = "core.loosecompression" then
          (number? value).any fun n => -1 ≤ n && n ≤ 9
        else if name = "core.commentchar" then value.length = 1 || fits value ["auto"]
        else true

end GameFixes.Depot.Config

namespace GameFixes.Depot.Workspace

/-- The settings that count besides those of a depot: of the person, and what variables say. -/
def otherSettings? (s : Site) (env : Environment) : Option (Config.Settings × Config.Settings) := do
  return (← Config.ofPerson? s env, ← Config.ofVariables? env)

/-- The depot that is meant in the working directory, whatever its settings say. -/
def found? (s : Site) (env : Environment) : Option Workspace := do
  let (location, own) ← meant? s env
  let (person, said) ← otherSettings? s env
  return { site := s, env := env, location := location, settings := person ++ own ++ said }

/-- The depot that is meant in the working directory. -/
def ofSite? (s : Site) (env : Environment) : Option Workspace :=
  (found? s env).filter fun w => w.settings.all Config.isSound

/-! ### Changing settings -/

/-- The depot with other settings in its file, if that can be read and nobody writes to it. -/
def editSettings? (w : Workspace) (edit : List Config.Piece → Option (List Config.Piece)) :
    Option Workspace := do
  let p := (reach? w.tree w.location.shared configName).getD (w.location.shared ++ [configName])
  let pieces ← match w.tree.at? p with
    | some (.file content) => Config.pieces? content
    | none => some []
    | some _ => none
  let pieces ← edit pieces
  if !w.isUnlocked p then none
  else
    let w := w.withTree (w.tree.put p (.file (Text.ofOctets (Config.textOf pieces))))
    -- What was set counts from now on.
    let settings := ((found? w.site w.env).map (·.settings)).getD w.settings
    return { w with settings := settings }

/-- The depot with values for some settings, each the only one. -/
def putSettings? (w : Workspace) (l : List (Config.Key × List Char)) : Option Workspace :=
  w.editSettings? fun pieces =>
    l.foldlM (fun pieces (k, value) => Config.set? .all k value pieces) pieces

/-- The depot without a section of settings, if there is one. -/
def dropSettings? (w : Workspace) (group : String) (part : List Char) : Option Workspace :=
  w.editSettings? fun pieces =>
    some ((Config.dropSection? (group.toList ++ '.' :: part) pieces).getD pieces)

end GameFixes.Depot.Workspace
