import GameFixes.Depot.Conversion
import GameFixes.Depot.Ignore
import GameFixes.Depot.Moment
import GameFixes.Depot.Reference
import GameFixes.Tree.Node

/-!
# Work on a depot

A depot in its surroundings: the site that it is in, its settings and the variables. What it makes of
the files and links in its directory, whether they have changed since it looked at them, and what it
writes there.
-/

namespace GameFixes.Depot

/-- A depot, and what counts in work on it. -/
structure Workspace where
  site : Site
  env : Environment := ∅
  location : Location
  settings : Config.Settings := []
  /-- What was said. -/
  said : String := ""
  deriving DecidableEq

namespace Workspace

/-! ### Parts -/

/-- The tree around a depot. -/
def tree (w : Workspace) : Tree := w.site.tree

/-- The directory of a depot. -/
def top (w : Workspace) : Place := w.location.top.getD w.site.cwd

/-- The place of what is at a place in the directory of a depot. -/
def full (w : Workspace) (p : Place) : Place := w.top ++ p

/-- The digest by which objects are named. -/
def naming (w : Workspace) : Naming :=
  ((Config.value? w.settings "extensions.objectformat").bind namingOf?).getD .short

/-- The directory of the objects. -/
def objectsPlace (w : Workspace) : Place :=
  match w.env.get? "GIT_OBJECT_DIRECTORY" with
  | some path => (reach? w.tree w.site.cwd (bytesOf path)).getD []
  | none =>
    (reach? w.tree w.location.shared objectsName).getD (w.location.shared ++ [objectsName])

/-- The objects. -/
def archive (w : Workspace) : Archive :=
  { w.site.archiveAt w.objectsPlace with naming := w.naming }

/-- The file of what is staged. -/
def indexPlace (w : Workspace) : Place :=
  match w.env.get? "GIT_INDEX_FILE" with
  | some path =>
    match w.tree.walk true linkLimit (if isRooted (bytesOf path) then [] else w.top)
        (stepsOf (bytesOf path)) with
    | .ok (.place p) => p
    | .ok (.free parent name) => parent ++ [name]
    | .error _ => []
  | none => w.location.kept ++ [indexName]

/-- What is staged. -/
def stage (w : Workspace) : Stage := (w.site.stageAt? w.indexPlace).getD {}

/-- Whether anything was ever staged. -/
def hasStage (w : Workspace) : Bool := (w.tree.at? w.indexPlace).isSome

/-- The place of the mark that somebody writes to a file just now. -/
def lockOf (p : Place) : Place :=
  match p.getLast? with
  | some name => p.dropLast ++ [name ++ bytesOf ".lock"]
  | none => p

/-- Whether a file among what the depot keeps can be written: nobody else does. -/
def isUnlocked (w : Workspace) (p : Place) : Bool := (w.tree.at? (lockOf p)).isNone

/-- Whether what is staged can be read. -/
def canReadStage (w : Workspace) : Bool :=
  match w.tree.at? w.indexPlace with
  | none | some (.sealed _) => true
  | _ => false

/-- Whether what is staged can be read and changed. -/
def canStage (w : Workspace) : Bool := w.canReadStage && w.isUnlocked w.indexPlace

/-- Whether a setting says yes. -/
def isOn (w : Workspace) (name : String) : Bool := Config.isOn w.settings name

/-- What a setting says, as a text. -/
def setting? (w : Workspace) (name : String) : Option String :=
  (Config.value? w.settings name).map fun value => stringOfLossy (Text.ofOctets value)

/-! ### Changes -/

/-- The site in which there is another tree. -/
def withTree (w : Workspace) (t : Tree) : Workspace := { w with site := { w.site with tree := t } }

/-- The site with a file among what the depot keeps. -/
def putKept (w : Workspace) (p : Place) (n : Node) : Workspace := w.withTree (w.tree.plant p n)

/-- The site without a file. -/
def eraseKept (w : Workspace) (p : Place) : Workspace := w.withTree (w.tree.erase p)

/-- A file among what a depot keeps for a while, by its name. -/
def statePlace (w : Workspace) (name : String) : Place := w.location.kept ++ [bytesOf name]

/-- The text of such a file. -/
def stateText? (w : Workspace) (name : String) : Option String :=
  match w.tree.at? (w.statePlace name) with
  | some (.file content) => some (stringOfLossy content)
  | _ => none

/-- Whether there is such a file. -/
def hasState (w : Workspace) (name : String) : Bool := (w.tree.at? (w.statePlace name)).isSome

/-- The depot with such a file. -/
def putState (w : Workspace) (name text : String) : Workspace :=
  w.putKept (w.statePlace name) (.file (bytesOf text))

/-- The depot without some such files. -/
def eraseStates (w : Workspace) (names : List String) : Workspace :=
  names.foldl (fun w name =>
    (w.withTree (w.tree.clear (w.statePlace name))).eraseKept (w.statePlace name)) w

/-- The depot with other objects. -/
def withArchive (w : Workspace) (a : Archive) : Workspace :=
  { w with site := w.site.putArchive w.objectsPlace a }

/-- The depot with another stage. -/
def putStage (w : Workspace) (stage : Stage) : Workspace :=
  ({ w with site := w.site.putStage w.indexPlace stage } : Workspace).putKept w.indexPlace
    (.sealed [])

/-- The depot with an object, and its name. -/
def putObject (w : Workspace) (o : Object) : Workspace × ObjectName :=
  let (a, name) := w.archive.put o
  (w.withArchive a, name)

/-- What was said and more. -/
def say (w : Workspace) (text : String) : Workspace := { w with said := w.said ++ text }

/-! ### Looking -/

/-- What stands at a place, if directories lead to it. -/
def standing? (w : Workspace) (p : Place) : Option Node :=
  if (Tree.around p).all fun q => w.tree.at? (w.full q) = some .dir then w.tree.at? (w.full p)
  else none

/-- Whether the size of letters does not matter. -/
def folds (w : Workspace) : Bool := w.isOn "core.ignorecase"

/-- The content of a file that a setting names, or else of one with that name among those of the
person. -/
def personalFile? (w : Workspace) (name : String) (fallback : String) : Option (List UInt8) :=
  let home := (w.env.get? "HOME").map (· ++ "/.config")
  let dir := ((w.env.get? "XDG_CONFIG_HOME").filter (· ≠ "")).or home
  let path? := (Config.value? w.settings name).map fun v =>
    Config.expanded w.env (Text.ofOctets v)
  match path?, dir with
  | some path, _ => contentAt? w.tree w.top path
  | none, some dir => contentAt? w.tree w.top (bytesOf (dir ++ "/git/" ++ fallback))
  | none, none => none

/-- What is ignored. -/
def ignoreRules (w : Workspace) : IgnoreRules :=
  let own := (contentAt? w.tree w.location.shared (bytesOf "info/exclude")).map (Ignore.rulesOf [])
  let personal := (w.personalFile? "core.excludesfile" "ignore").map (Ignore.rulesOf [])
  { general := own.toList ++ personal.toList, folds := w.folds }

/-- Whether a place in the directory of a depot is ignored. -/
def isIgnored (w : Workspace) (p : Place) (isDir : Bool) : Bool :=
  w.ignoreRules.covers w.tree w.top p isDir

/-- The content of a file in the directory of a depot. -/
def fileAt? (w : Workspace) (p : Place) : Option (List UInt8) :=
  match w.standing? p with
  | some (.file content) => some content
  | _ => none

/-- The content of a staged file. -/
def stagedFile? (w : Workspace) (stage : Stage) (p : Place) : Option (List UInt8) :=
  match stage.at? p with
  | some e => if e.item.kind = .file || e.item.kind = .program then w.archive.blob? e.item.name
      else none
  | none => none

/-! ### Conversion -/

/-- The attributes that are not in the directory of the depot. -/
def surroundings (w : Workspace) : Attribute.Surroundings :=
  let own := contentAt? w.tree w.location.shared (bytesOf "info/attributes")
  let personal := w.personalFile? "core.attributesfile" "attributes"
  let linesOf (content : Option (List UInt8)) : List Attribute.Line :=
    (content.map (Attribute.linesOf [])).getD []
  { own := linesOf own, general := linesOf personal, folds := w.folds }

/-- What the settings say about line endings. -/
def endingHabits (w : Workspace) : LineEnding.Habits where
  habit :=
    match (Config.value? w.settings "core.autocrlf").map (·.map Char.toLower) with
    | some s => if s = "input".toList then .feeds else if w.isOn "core.autocrlf" then .returns
        else .nothing
    | none => if w.isOn "core.autocrlf" then .returns else .nothing
  prefersReturns :=
    (Config.value? w.settings "core.eol").map (·.map Char.toLower) = some "crlf".toList

/-- The filter with a name. -/
def filterNamed (w : Workspace) (name : List Char) : ContentFilter :=
  let key (last : String) : String := "filter." ++ stringOfLossy (Text.ofOctets name) ++ last
  ⟨Config.value? w.settings (key ".clean"), Config.value? w.settings (key ".smudge"),
    w.isOn (key ".required")⟩

/-- What is done to a file with some attributes. -/
def conversionOf (w : Workspace) (attributes : Attribute.Settings) : Conversion where
  filter :=
    match attributes.lookup "filter".toList with
    | some (.text name) => some (w.filterNamed name)
    | _ => none
  encoding :=
    match attributes.lookup "working-tree-encoding".toList with
    | some (.text name) =>
      if Conversion.spellingOf? name = some .utf8 then none else some name
    | some .on | some .off => some []
    | some .unspecified | none => none
  ending := .ofSettings w.endingHabits attributes
  hasIdent := attributes.lookup "ident".toList = some .on
  isStrict := w.isOn "core.safecrlf"

/-- What is done to the file at a place when it is staged: the attributes in the directory count,
and staged ones where there are none. -/
def conversionIn (w : Workspace) (stage : Stage) (p : Place) : Conversion :=
  w.conversionOf (Attribute.settingsOf w.surroundings
    (fun q => (w.fileAt? q).or (w.stagedFile? stage q)) p)

/-- What is done to the file at a place when it is written: the staged attributes count, and those
in the directory where there are none. -/
def conversionOut (w : Workspace) (stage : Stage) (p : Place) : Conversion :=
  w.conversionOf (Attribute.settingsOf w.surroundings
    (fun q => (w.stagedFile? stage q).or (w.fileAt? q)) p)

/-! ### Keeping -/

/-- The commit that a nested depot is at, if it says one. -/
def nestedTip? (w : Workspace) (p : Place) : Option ObjectName := do
  let kept ← nestedAt? w.site (w.full p)
  let l : Location := ⟨kept, sharedOf w.site ∅ kept, none⟩
  Reference.object? w.tree w.naming l Reference.head

/-- What is kept of a file. -/
def fileKind (w : Workspace) (stage : Stage) (p : Place) : Kind :=
  let isProgram := if Config.isOff w.settings "core.filemode" then
    (stage.at? p).any (·.item.kind = .program) else w.site.programs.contains (w.full p)
  if isProgram then .program else .file

/-- What is kept of what stands at a place, and the content that has to be kept for it. Nothing is
kept of a file that cannot be converted, if that `matters`. -/
def takenOf? (w : Workspace) (stage : Stage) (p : Place) (matters : Bool) (n : Node) :
    Option (Item × Option Object) :=
  let object (kind : Kind) (content : List UInt8) : Item × Option Object :=
    (⟨kind, (Object.blob content).nameBy w.naming⟩, some (.blob content))
  match n with
  | .file content =>
    let c := w.conversionIn stage p
    let before := w.stagedFile? stage p
    let content? := if matters then c.toKept? before content else some (c.toKept before content)
    content?.map (object (w.fileKind stage p))
  | .sealed content => some (object (w.fileKind stage p) (Node.sealMark ++ content))
  | .link target =>
    let isFile := (Config.isOff w.settings "core.symlinks") &&
      (stage.at? p).any fun e => e.item.kind ≠ .link
    some (object (if isFile then .file else .link) target)
  | .dir => (w.nestedTip? p).map fun name => (⟨.nested, name⟩, none)

/-- What is kept of what stands at a place, whatever becomes of it. -/
def itemOf? (w : Workspace) (stage : Stage) (p : Place) (n : Node) : Option Item :=
  match n, stage.at? p with
  | .file _, some ⟨⟨.link, _⟩, _, _, _⟩ =>
    -- Where no links are made, a file stands for the link that was staged.
    if Config.isOff w.settings "core.symlinks" then
      (w.takenOf? stage p false n).map fun e => ⟨.link, e.1.name⟩
    else (w.takenOf? stage p false n).map (·.1)
  | _, _ => (w.takenOf? stage p false n).map (·.1)

/-! ### Comparing -/

/-- Whether what stands at a place is not what was seen there, so that nobody has to look at it. -/
def hasOtherSize : Option Node → Node → Bool
  | some (.file old), .file new => !old.isEmpty && old.length ≠ new.length
  | _, _ => false

/-- Whether what stands at a place is something else than what is staged for it. A nested depot may
have gone on, and its directory may hold none. -/
def isChanged (w : Workspace) (stage : Stage) (p : Place) (e : Entry) (n : Node) : Bool :=
  if e.isIntended then true
  else
    match e.item.kind, n with
    | .nested, .dir => (w.nestedTip? p).any (· ≠ e.item.name)
    | _, n => hasOtherSize e.seen n || w.itemOf? stage p n ≠ some e.item

/-! ### Writing -/

/-- The tree with directories around a place, in the place of whatever else stands there. -/
def clearWay (t : Tree) (top p : Place) : Tree :=
  (Tree.around p).foldl (fun t q =>
    if t.at? (top ++ q) = some .dir then t else t.put (top ++ q) .dir) t

/-- What is written for an item at a place, if it can be written. -/
def nodeOf? (w : Workspace) (stage : Stage) (p : Place) (item : Item) : Option Node :=
  match item.kind with
  | .directory | .nested => some .dir
  | .link => (w.archive.blob? item.name).map fun target =>
    if Config.isOff w.settings "core.symlinks" then .file target else .link target
  | .file | .program => do
    let content ← w.archive.blob? item.name
    match Node.ofStoredBytes content with
    | .file content => ((w.conversionOut stage p).toWritten? item.name content).map .file
    | n => some n

/-- Writes an item to the directory of a depot, if it can be written. -/
def writeItem? (w : Workspace) (stage : Stage) (p : Place) (item : Item) : Option Workspace := do
  let n ← w.nodeOf? stage p item
  let t := clearWay w.tree w.top p
  if item.kind.isDir then
    return w.withTree (if t.at? (w.full p) = some .dir then t else t.put (w.full p) .dir)
  else
    let w := w.withTree ((t.clear (w.full p)).put (w.full p) n)
    let isProgram := item.kind = .program && n.isFile
    return { w with site := w.site.setProgram (w.full p) isProgram }

/-- Removes what stands at a place, and the directories around it that hold nothing then. -/
def removeAt (w : Workspace) (p : Place) : Workspace :=
  let dirs := (Tree.around p).reverse.map w.full
  let t := w.tree.erase (w.full p)
  w.withTree (dirs.foldl (fun (t, goesOn) q =>
    if goesOn && (t.children q).isEmpty then (t.erase q, true) else (t, false)) (t, true)).1

/-! ### People -/

/-- Whether a character is left away at the ends of a name. -/
def isCrud (c : Char) : Bool := c.toNat ≤ 0x20 || ".,:;<>\"\\'".toList.contains c

/-- A name as it is written in a signature. -/
def withoutCrud (s : String) : String :=
  let s := ((s.toList.dropWhile isCrud).reverse.dropWhile isCrud).reverse
  String.ofList (s.filter fun c => c ≠ '\n' && c ≠ '<' && c ≠ '>')

/-- The time at which everything is done. -/
def now : String := "1700000000 +0000"

/-- The name that somebody has on the machine. -/
def machineName : String := "root"

/-- A signature with a name, which must be one, an address and a time. -/
def signatureOf? (name email time : String) : Option Signature :=
  if name.toList.all isCrud then none else some ⟨withoutCrud name, withoutCrud email, time⟩

/-- Who does something, as `role` says: an author or a committer. It must be known. -/
def signature? (w : Workspace) (role : String) : Option Signature := do
  let inEnv (last : String) : Option String := w.env.get? ("GIT_" ++ role.toUpper ++ last)
  let said (last : String) : Option String :=
    (w.setting? (role ++ last)).or (w.setting? ("user" ++ last))
  let isStrict := w.isOn "user.useconfigonly"
  let name ← ((inEnv "_NAME").or (said ".name")).or
    (if isStrict then none else some machineName)
  let email ← ((inEnv "_EMAIL").or (said ".email")).or
    (if isStrict then none else w.env.get? "EMAIL")
  let time := ((inEnv "_DATE").filter (· ≠ "")).getD now
  if Moment.isExact time.toList then signatureOf? name email time else none

/-- Who changes a reference, as far as that is known. -/
def committer (w : Workspace) : Signature :=
  (w.signature? "committer").getD ⟨machineName, "", now⟩

end Workspace

end GameFixes.Depot
