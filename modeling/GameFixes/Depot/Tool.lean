import GameFixes.Depot.Tool.Parts
import GameFixes.Depot.Tool.Remotes

/-!
# The version control tool

What the tool does for a command line: words in front of a command say where it works and with which
settings, and a setting may give a command another name.
-/

namespace GameFixes.Depot.Tool

/-! ### Commands -/

/-- A command that only needs a depot; its words do not matter. -/
def tending : Command := fun s env _ => onDepot false s env (pure ())

/-- The commands by name. -/
def commands : List (String × Command) :=
  [("add", add), ("stage", add), ("rm", remove), ("mv", move), ("clean", clearAway),
    ("commit", commit), ("branch", branch), ("tag", tag), ("checkout", checkout),
    ("switch", switchBranch), ("restore", restore), ("reset", reset), ("merge", mergeCommand),
    ("cherry-pick", replayCommand false), ("revert", replayCommand true),
    ("rebase", rebaseCommand), ("stash", shelf), ("config", config), ("init", init),
    ("init-db", init), ("remote", remote), ("fetch", fetchCommand), ("pull", pullCommand),
    ("push", pushCommand), ("clone", clone), ("diff", diff), ("log", log), ("rev-list", revList),
    ("whatchanged", log), ("show", showObjects), ("status", status), ("ls-files", listFiles),
    ("ls-tree", listTree), ("check-ignore", checkIgnore), ("grep", search), ("blame", blame),
    ("annotate", blame), ("rev-parse", parseRevisions), ("cat-file", lookAt),
    ("merge-base", commonBase), ("show-ref", showReferences), ("describe", describe),
    ("check-ref-format", checkReferenceName), ("update-index", updateStage),
    ("read-tree", readTree), ("write-tree", writeTree), ("hash-object", nameObjects),
    ("symbolic-ref", symbolicReference), ("update-ref", updateReference),
    ("ls-remote", listRemote), ("pack-refs", packReferences), ("gc", tending),
    ("fsck", tending), ("prune", tending), ("repack", tending), ("count-objects", tending),
    ("maintenance", tending), ("reflog", tending), ("for-each-ref", tending),
    ("rerere", tending), ("update-server-info", tending), ("shortlog", tending),
    ("version", fun s _ _ => .nothing s), ("help", fun s _ _ => .nothing s)]

/-- The words that a text says, some of them quoted. -/
def splitWords? : (word : List Char) → (isIn : Bool) → List Char → Option (List String)
  | word, isIn, [] => some (if isIn then [String.ofList word.reverse] else [])
  | word, isIn, '\\' :: c :: s => if isIn || c ≠ '\n' then splitWords? (c :: word) true s else none
  | word, _, '"' :: s => quoted '"' word s
  | word, _, '\'' :: s => quoted '\'' word s
  | word, isIn, c :: s =>
    if Glob.isSpace c then
      (splitWords? [] false s).map fun l =>
        if isIn then String.ofList word.reverse :: l else l
    else splitWords? (c :: word) true s
where
  /-- Reads on behind a quotation mark. -/
  quoted (mark : Char) : (word : List Char) → List Char → Option (List String)
    | _, [] => none
    | word, c :: s => if c = mark then splitWords? word true s else quoted mark (c :: word) s

/-! ### In front of the command -/

/-- A text in quotation marks that stand for themselves if they are escaped outside. -/
def quotedWord (s : List Char) : List Char :=
  '\'' :: (s.flatMap fun c => if c = '\'' || c = '!' then ['\'', '\\', c, '\''] else [c]) ++ ['\'']

/-- The variables with one more setting. -/
def withSetting (env : Environment) (name value : List Char) (hasValue : Bool) : Environment :=
  let before := (env.get? "GIT_CONFIG_PARAMETERS").getD ""
  let word := if hasValue then quotedWord name ++ '=' :: quotedWord value else quotedWord name
  env.insert "GIT_CONFIG_PARAMETERS"
    (before ++ (if before = "" then "" else " ") ++ String.ofList word)

/-- The variables that words about all paths set. -/
def pathWords : List (String × String × String) :=
  [("--literal-pathspecs", "GIT_LITERAL_PATHSPECS", "1"),
    ("--no-literal-pathspecs", "GIT_LITERAL_PATHSPECS", "0"),
    ("--glob-pathspecs", "GIT_GLOB_PATHSPECS", "1"),
    ("--noglob-pathspecs", "GIT_NOGLOB_PATHSPECS", "1"),
    ("--icase-pathspecs", "GIT_ICASE_PATHSPECS", "1"),
    ("--no-replace-objects", "GIT_NO_REPLACE_OBJECTS", "1"),
    ("--no-optional-locks", "GIT_OPTIONAL_LOCKS", "0"), ("--no-pager", "GIT_PAGER_IN_USE", "0"),
    ("-P", "GIT_PAGER_IN_USE", "0"), ("-p", "GIT_PAGER_IN_USE", "0"),
    ("--paginate", "GIT_PAGER_IN_USE", "0"), ("--no-lazy-fetch", "GIT_NO_LAZY_FETCH", "1")]

/-- The variables that words with a value set. -/
def valueWords : List (String × String) :=
  [("--git-dir", "GIT_DIR"), ("--work-tree", "GIT_WORK_TREE"), ("--namespace", "GIT_NAMESPACE"),
    ("--attr-source", "GIT_ATTR_SOURCE")]

/-- The value of a word in front of the command, and the words behind it. -/
def valueWord? (arg : String) (args : List String) : Option (String × String × List String) :=
  valueWords.findSome? fun (word, name) =>
    if arg = word then
      match args with
      | value :: args => some (name, value, args)
      | [] => none
    else
      (Text.after? (word.toList ++ ['=']) arg.toList).map fun value =>
        (name, String.ofList value, args)

/-- The outcome of a command by its name, or by a name that a setting gives to it. -/
def runNamed (s : Site) (env : Environment) (run : Environment → List String → Outcome)
    (name : String) (args : List String) : Outcome :=
  match commands.lookup name with
  | some c => c s env args
  | none =>
    let settings := (settingsOf? s env .all).getD []
    match Config.value? settings ("alias." ++ name.toLower) with
    | some text =>
      match splitWords? [] false text with
      | some (first :: rest) =>
        if first.toList.head? = some '!' then .refused s else run env (first :: rest ++ args)
      | _ => .refused s
    | none => .refused s

/-- Runs the tool with some variables. -/
def runWith (fuel : Nat) (s : Site) (env : Environment) : List String → Outcome
  | [] => .refused s
  | "-C" :: dir :: args =>
    match fuel with
    | 0 => .refused s
    | fuel + 1 =>
      if dir = "" then runWith fuel s env args
      else
        match s.placeOf dir with
        | .ok p => if s.tree.at? p = some .dir then runWith fuel { s with cwd := p } env args
            else .refused s
        | .error _ => .refused s
  | "-c" :: setting :: args =>
    match fuel with
    | 0 => .refused s
    | fuel + 1 =>
      let s' := setting.toList
      let name := s'.takeWhile (· ≠ '=')
      runWith fuel s (withSetting env name ((s'.drop name.length).drop 1)
        (name.length < s'.length)) args
  | arg :: args =>
    match fuel with
    | 0 => .refused s
    | fuel + 1 =>
      match pathWords.lookup arg, valueWord? arg args,
          Text.after? "--config-env=".toList arg.toList with
      | some (name, value), _, _ => runWith fuel s (env.insert name value) args
      | none, some (name, value, args), _ => runWith fuel s (env.insert name value) args
      | none, none, some text =>
        let name := ((text.reverse.dropWhile (· ≠ '=')).drop 1).reverse
        match env.get? (String.ofList (text.drop (name.length + 1))) with
        | some value => if name = [] then .refused s
            else runWith fuel s (withSetting env name value.toList true) args
        | none => .refused s
      | none, none, none =>
        if arg = "--bare" then
          let here := stringOfLossy (rootedPath s.cwd)
          let env := if (env.get? "GIT_DIR").isSome then env else env.insert "GIT_DIR" here
          runWith fuel s (env.insert "GIT_IMPLICIT_WORK_TREE" "0") args
        else if ["--version", "-v", "--help", "-h", "--html-path", "--man-path", "--info-path",
            "--exec-path"].contains arg then .nothing s
        else if arg.toList.head? = some '-' then .refused s
        else runNamed s env (fun env args => runWith fuel s env args) arg args

/-- How often other names may stand for commands. -/
def aliasLimit : Nat := 16

/-- Runs the tool. The working directory of the site is the same afterwards. -/
def run (s : Site) (env : Environment) (args : List String) : Outcome :=
  let o := runWith (args.length + aliasLimit) s env args
  { o with site := { o.site with cwd := s.cwd } }

end GameFixes.Depot.Tool
