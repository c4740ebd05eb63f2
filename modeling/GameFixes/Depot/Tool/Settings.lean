import GameFixes.Depot.Creation
import GameFixes.Depot.Tool.Commits

/-!
# Commands about settings and new depots

Settings are asked for and changed, in the file of the depot or in another one, and directories become
depots.
-/

namespace GameFixes.Depot.Tool

open Work

/-! ### Files of settings -/

/-- Whose settings are meant. -/
inductive SettingsFile
  | all
  | depot
  | person
  | everybody
  | file (path : String)
  deriving DecidableEq, Repr

/-- The file of settings that options or a variable mean; nothing, if they mean several. -/
def settingsFile? (words : Words) (env : Environment) : Option SettingsFile :=
  let found : List SettingsFile := (words.values "file").map .file ++
    (if words.has "global" then [.person] else []) ++
    (if words.has "system" then [.everybody] else []) ++
    (if words.has "local" || words.has "worktree" then [.depot] else [])
  match found, env.get? "GIT_CONFIG" with
  | [], some path => some (.file path)
  | [], none => some .all
  | [f], _ => some f
  | _ :: _ :: _, _ => none

/-- The path of a file of settings that can be written. -/
def pathOf? (s : Site) (env : Environment) (f : SettingsFile) : Option (List UInt8) :=
  match f with
  | .all | .depot => (meant? s env).map fun (l, _) => rootedPath (l.shared ++ [configName])
  | .file path => some (bytesOf path)
  | .everybody => some (bytesOf ((env.get? "GIT_CONFIG_SYSTEM").getD "/etc/gitconfig"))
  | .person =>
    match env.get? "GIT_CONFIG_GLOBAL", env.get? "HOME" with
    | some path, _ => some (bytesOf path)
    | none, some home =>
      let own := home ++ "/.gitconfig"
      let other := (((env.get? "XDG_CONFIG_HOME").filter (· ≠ "")).getD (home ++ "/.config")) ++
        "/git/config"
      some (bytesOf (if !s.contains own && s.contains other then other else own))
    | none, none => none

/-- The settings that are asked for, if they can be read. -/
def settingsOf? (s : Site) (env : Environment) (f : SettingsFile) : Option Config.Settings :=
  match f with
  | .all =>
    match Workspace.found? s env with
    | some w => some w.settings
    | none => (Workspace.otherSettings? s env).map fun (person, said) => person ++ said
  | f => (pathOf? s env f).bind fun path =>
    if s.contains (stringOfLossy path) then Config.readFile? s env Config.includeLimit path
    else none

/-- The site with other settings in a file. -/
def editFile? (s : Site) (env : Environment) (f : SettingsFile)
    (edit : List Config.Piece → Option (List Config.Piece)) : Option Site := do
  let path ← pathOf? s env f
  let p ← match s.locate true path with
    | .ok (.place p) => some p
    | .ok (.free parent name) => some (parent ++ [name])
    | .error _ => none
  let pieces ← match s.tree.at? p with
    | some (.file content) => Config.pieces? content
    | none => some []
    | some _ => none
  let pieces ← edit pieces
  if (s.tree.at? (Workspace.lockOf p)).isSome || s.tree.at? p.dropLast ≠ some .dir then none
  else return { s with tree := s.tree.put p (.file (Text.ofOctets (Config.textOf pieces))) }

/-! ### Values -/

/-- Whether a pattern occurs in a text. It may be tied to the ends, and signs may take it back. -/
def occursIn (pattern : String) (text : List Char) : Bool :=
  let (isNegated, p) := match Config.octetsOf pattern with
    | '!' :: p => (true, p)
    | p => (false, p)
  let (atStart, p) := match p with
    | '^' :: p => (true, p)
    | p => (false, p)
  let (atEnd, p) := match Text.dropLast? '$' p with
    | some p => (true, p)
    | none => (false, p)
  let p := p.filter (· ≠ '\\')
  let isFound : Bool := match atStart, atEnd with
    | true, true => p = text
    | true, false => (Text.after? p text).isSome
    | false, true => (Text.after? p.reverse text.reverse).isSome
    | false, false => Text.occurs p text
  isFound ≠ isNegated

/-- The kind of value that is asked for. -/
def typeOf? (words : Words) : Option String :=
  match words.last? ["type", "bool", "int", "bool-or-int", "bool-or-str", "path", "expiry-date"] with
  | some ⟨"type", value, false⟩ => value
  | some ⟨name, _, false⟩ => some name
  | _ => none

/-- A value of a kind as it is written, if it is one; a setting alone has none. -/
def valueOf? (kind : Option String) (value : Option (List Char)) : Option (List Char) :=
  let truthText (b : Bool) : List Char := (if b then "true" else "false").toList
  match kind, value with
  | none, v | some "path", v | some "bool-or-str", v | some "expiry-date", v | some "color", v =>
    some (v.getD [])
  | some "bool", none | some "bool-or-int", none => some (truthText true)
  | some "bool", some v => (Config.truth? v).map truthText
  | some "int", v => v.bind fun v => (Config.number? v).map fun n => (toString n).toList
  | some "bool-or-int", some v =>
    ((Config.number? v).map fun n => (toString n).toList).or ((Config.truth? v).map truthText)
  | some _, _ => none

/-- The options for settings. -/
def configRules : String :=
  "global system local worktree f:file= blob= get get-all get-regexp get-urlmatch " ++
    "replace-all add unset unset-all rename-section remove-section l:list fixed-value e:edit " ++
    "get-color get-colorbool t:type= bool! int! bool-or-int! bool-or-str! path! expiry-date! " ++
    "z:null name-only includes show-origin show-scope default="

/-- What options say that is to be done with settings. -/
def configActions : List String :=
  ["get", "get-all", "get-regexp", "get-urlmatch", "replace-all", "add", "unset", "unset-all",
    "rename-section", "remove-section", "list", "edit", "get-color", "get-colorbool"]

/-- The pieces without the values of a setting that fit a pattern, and how many there were. -/
def withoutFitting (k : Config.Key) (pattern : String) (pieces : List Config.Piece) :
    List Config.Piece × Nat :=
  let fits (p : Config.Piece) : Bool := p.gives k.name &&
    (p.setting?.any fun e => occursIn pattern (e.2.getD []))
  (pieces.filter (!fits ·), pieces.countP fits)

/-- Gives a value to a setting, in place of the values that fit a pattern. -/
def putFitting? (isForAll : Bool) (k : Config.Key) (value : List Char) (pattern : Option String)
    (pieces : List Config.Piece) : Option (List Config.Piece) :=
  match pattern with
  | none => Config.set? (if isForAll then .all else .one) k value pieces
  | some pattern =>
    match withoutFitting k pattern pieces with
    | (rest, n) => if n ≤ 1 || isForAll then Config.set? .more k value rest else none

/-- Takes values from a setting, all or only one, as far as they fit a pattern. -/
def unsetFitting? (isForAll : Bool) (k : Config.Key) (pattern : Option String)
    (pieces : List Config.Piece) : Option (List Config.Piece) :=
  match pattern with
  | none => Config.unset? isForAll k pieces
  | some pattern =>
    match withoutFitting k pattern pieces with
    | (_, 0) => none
    | (rest, n) => if n = 1 || isForAll then some rest else none

/-- Asks for settings, or changes them. -/
def config : Command := fun s env args =>
  let result : Option Site := do
    let words ← leadingWords? configRules args
    let f ← settingsFile? words env
    let key (name : String) : Option Config.Key := Config.Key.ofText? (Config.octetsOf name)
    let kind := typeOf? words
    let edited (edit : List Config.Piece → Option (List Config.Piece)) : Option Site :=
      editFile? s env f edit
    let action? := match configActions.filter words.has, words.operands.length with
      | [action], _ => some action
      | [], 1 => some "get"
      | [], 2 => some "set"
      | [], 3 => some "set-all"
      | _, _ => none
    let asked (name : String) (pattern : Option String) : Option Site := do
      let k ← key name
      let settings ← settingsOf? s env f
      let found := settings.filter fun e =>
        e.1 = k.name && pattern.all fun p => occursIn p (e.2.getD [])
      match found.getLast?, words.value? "default" with
      | some e, _ => (valueOf? kind e.2).map fun _ => s
      | none, some text => (valueOf? kind (some (Config.octetsOf text))).map fun _ => s
      | none, none => none
    match ← action?, words.operands with
    | "get", [name] | "get-all", [name] => asked name none
    | "get", [name, p] | "get-all", [name, p] => asked name (some p)
    | "get-regexp", name :: _ =>
      let settings ← settingsOf? s env f
      if settings.any fun e => occursIn name e.1 then some s else none
    | "set", [name, value] =>
      let value ← valueOf? kind (some (Config.octetsOf value))
      edited (Config.set? .one (← key name) value)
    | "set-all", [name, value, p] =>
      let value ← valueOf? kind (some (Config.octetsOf value))
      edited (putFitting? false (← key name) value (some p))
    | "replace-all", name :: value :: rest =>
      let value ← valueOf? kind (some (Config.octetsOf value))
      if rest.length ≤ 1 then edited (putFitting? true (← key name) value rest.head?) else none
    | "add", [name, value] =>
      let value ← valueOf? kind (some (Config.octetsOf value))
      edited (Config.set? .more (← key name) value)
    | "unset", name :: rest =>
      if rest.length ≤ 1 then edited (unsetFitting? false (← key name) rest.head?) else none
    | "unset-all", name :: rest =>
      if rest.length ≤ 1 then edited (unsetFitting? true (← key name) rest.head?) else none
    | "rename-section", [old, new] =>
      edited (Config.renameSection? (← key (old ++ ".x")) (← key (new ++ ".x")))
    | "remove-section", [name] => edited (Config.dropSection? (← key (name ++ ".x")).sectionName)
    | "list", [] => (settingsOf? s env f).map fun _ => s
    | "edit", [] => if leavesText ((env.get? "GIT_EDITOR").getD "vi") then some s else none
    | "get-color", _ :: _ | "get-colorbool", _ :: _ => some s
    | _, _ => none
  match result with
  | some t => .nothing t
  | none => .refused s

/-! ### New depots -/

/-- The options for new depots. -/
def initRules : String :=
  "template= bare shared?! q:quiet separate-git-dir= b:initial-branch= object-format= ref-format="

/-- Whether a depot at a path is about no directory, as far as the path tells. -/
def looksBare (cwd : Place) (path : String) : Bool :=
  path = "." || bytesOf path = rootedPath cwd ||
    !(path = ".git" || (Text.after? "/.git".toList.reverse path.toList.reverse).isSome)

/-- The site seen from a directory, which is created if it is not there. -/
def entered? (s : Site) (path : String) : Option Site :=
  match s.placeOf path with
  | .ok p => if s.tree.at? p = some .dir then some { s with cwd := p } else none
  | .error _ =>
    match s.createDirs path with
    | (s, true) => (s.placeOf path).toOption.map fun p => { s with cwd := p }
    | (_, false) => none

/-- The digest that a new depot names its objects with. -/
def newNaming? (words : Words) (env : Environment) (before : Option Naming) : Option Naming :=
  match words.value? "object-format", env.get? "GIT_DEFAULT_HASH" with
  | some text, _ => (namingOf? text.toList).filter fun n => before.all (· = n)
  | none, some text => (namingOf? text.toList).map fun n => before.getD n
  | none, none => some (before.getD .short)

/-- Makes a directory a depot. -/
def init : Command := fun s env args =>
  let result : Option Site := do
    let words ← words? initRules args
    let inside ← match words.operands with
      | [] => some s
      | [path] => entered? s path
      | _ => none
    let person ← Config.ofPerson? s env
    let said ← Config.ofVariables? env
    let settings := person ++ said
    let isBareSaid := words.has "bare" || Config.truth?
      ((env.get? "GIT_IMPLICIT_WORK_TREE").getD "1").toList = some false
    let dir? := if isBareSaid && words.operands.length = 1 then
        some (stringOfLossy (rootedPath inside.cwd))
      else (env.get? "GIT_DIR").or
        (if isBareSaid then some (stringOfLossy (rootedPath inside.cwd)) else none)
    let top? := env.get? "GIT_WORK_TREE"
    if (top?.isSome && (dir?.isNone || isBareSaid)) || words.has "separate-git-dir" ||
        !settings.all Config.isSound then none
    else
      let path := dir?.getD ".git"
      let isBare := isBareSaid || looksBare inside.cwd path
      let kept ← match inside.locate true (bytesOf path) with
        | .ok (.place p) => if inside.tree.at? p = some .dir then some p else
            match inside.tree.at? p with
            | some (.file content) => pointedTo? inside env p.dropLast content
            | _ => none
        | .ok (.free parent name) => some (parent ++ [name])
        | .error _ => none
      let isOld := (inside.tree.at? (kept ++ [headName])).any isHead
      let before ← if isOld then
          (settingsOf? inside ∅ (.file (stringOfLossy (rootedPath (kept ++ [configName]))))).or
            (some []) |>.map some
        else some none
      let naming ← newNaming? words env (before.map fun settings =>
        ((Config.value? settings "extensions.objectformat").bind namingOf?).getD .short)
      let branch := ((words.value? "initial-branch").map Config.octetsOf).getD <|
        (Config.value? settings "init.defaultbranch").getD "master".toList
      let shared ← match words.last? ["shared"] with
        | some ⟨_, value, _⟩ => Creation.sharedNumber? (value.getD "group")
        | none =>
          match Config.value? settings "core.sharedrepository" with
          | some text => Creation.sharedNumber? (String.ofList text)
          | none => some none
      let template : Template := match words.value? "template", env.get? "GIT_TEMPLATE_DIR",
          Config.value? settings "init.templatedir" with
        | some "", _, _ => .nothing
        | some path, _, _ | none, some path, _ =>
          .directory (if isRooted (bytesOf path) then bytesOf path
            else rootedPath s.cwd ++ slash :: bytesOf path)
        | none, none, some path => .directory (Config.expanded env (Text.ofOctets path))
        | none, none, none => .usual
      let usualTop := if kept.getLast? = some keptName then kept.dropLast else inside.cwd
      let top := match top? with
        | some path => reach? inside.tree inside.cwd (bytesOf path)
        | none => some usualTop
      let said := top.filter fun top => !isBare && kept ≠ top ++ [keptName]
      if (!isOld && !Reference.isName (branchStart ++ branch)) || (!isBare && top.isNone) then none
      else
        let made ← Creation.create? inside kept
          { branch := branch, naming := naming, isBare := isBare, template := template
            shared := shared, top := said.map fun p => Text.octets (rootedPath p) }
        return { made with cwd := s.cwd }
  match result with
  | some t => .nothing t
  | none => .refused s

end GameFixes.Depot.Tool
