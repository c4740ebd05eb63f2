import GameFixes.Depot.Config.Layers

/-!
# Where depots are

A depot is kept in a directory of its own, which usually lies in the directory that the depot is
about. It is known by what is in it; without that it is a directory like others. Commands look for
the innermost depot around them, unless variables say which one is meant; addresses name one from
afar.
-/

namespace GameFixes.Depot

/-- Where a depot is. -/
structure Location where
  /-- The directory that it is kept in. -/
  kept : Place
  /-- The directory with what it has in common with others that are about the same. -/
  shared : Place
  /-- The directory that it is about, if there is one. -/
  top : Option Place
  deriving DecidableEq, Repr

/-! ### What is kept -/

/-- The name of a directory in which a depot is kept, or of a file that says where it is. -/
def keptName : FileName := bytesOf ".git"

def headName : FileName := bytesOf "HEAD"
def objectsName : FileName := bytesOf "objects"
def refsName : FileName := bytesOf "refs"
def configName : FileName := bytesOf "config"
def sharedName : FileName := bytesOf "commondir"
def indexName : FileName := bytesOf "index"

/-- The place that a path leads to from another one. -/
def reach? (t : Tree) (base : Place) (path : List UInt8) : Option Place :=
  match t.walk true linkLimit (if isRooted path then [] else base) (stepsOf path) with
  | .ok (.place p) => some p
  | .ok (.free _ _) | .error _ => none

/-- Whether a path leads to a directory from a place. -/
def leadsToDir (t : Tree) (base : Place) (path : List UInt8) : Bool :=
  match reach? t base path with
  | some p => t.at? p = some .dir
  | none => false

/-- The content of the file that a path leads to from a place. -/
def contentAt? (t : Tree) (base : Place) (path : List UInt8) : Option (List UInt8) :=
  match (reach? t base path).bind t.at? with
  | some (.file content) => some content
  | _ => none

/-- What the names of all references start with that have one in common, and those of branches. -/
def refStart : List Char := "refs/".toList
def branchStart : List Char := "refs/heads/".toList

/-- A text without the blanks at its end. -/
def trimmedEnd (s : List Char) : List Char := (s.reverse.dropWhile Glob.isSpace).reverse

/-- What a text says that says which reference counts. -/
def refOfText? (s : List Char) : Option (List Char) :=
  match Text.after? "ref:".toList s with
  | some s =>
    let s := s.dropWhile Glob.isSpace
    if (Text.after? refStart s).isSome then some (trimmedEnd s) else none
  | none => none

/-- Whether a text starts with as many digits as the shortest name of an object has. -/
def startsWithName (s : List Char) : Bool :=
  Naming.short.length ≤ s.length && (s.take Naming.short.length).all Glob.isHexDigit

/-- Whether what stands in the place of the file about the branch is one. -/
def isHead : Node → Bool
  | .file content =>
    let s := Text.octets content
    (refOfText? s).isSome || startsWithName s
  | .link target => (Text.after? refStart (Text.octets target)).isSome
  | .dir | .sealed _ => false

/-- The directory with what is in common, by what is kept in a directory or a variable. -/
def sharedOf (s : Site) (env : Environment) (kept : Place) : Place :=
  match env.get? "GIT_COMMON_DIR" with
  | some path => (reach? s.tree s.cwd (bytesOf path)).getD [bytesOf path]
  | none =>
    match contentAt? s.tree kept sharedName with
    | some content =>
      (reach? s.tree kept (Text.ofOctets (trimmedEnd (Text.octets content)))).getD kept
    | none => kept

/-- Whether there is a directory for the objects of a depot. -/
def hasObjects (s : Site) (env : Environment) (shared : Place) : Bool :=
  match env.get? "GIT_OBJECT_DIRECTORY" with
  | some path => leadsToDir s.tree s.cwd (bytesOf path)
  | none => leadsToDir s.tree shared objectsName

/-- Whether a depot is kept in a directory. -/
def isKept (s : Site) (env : Environment) (p : Place) : Bool :=
  s.tree.at? p = some .dir && (s.tree.at? (p ++ [headName])).any isHead &&
    hasObjects s env (sharedOf s env p) && leadsToDir s.tree (sharedOf s env p) refsName

/-! ### Settings -/

/-- The setting that says in which form a depot is kept. -/
def formSetting : String := "core.repositoryformatversion"

/-- What may be extended in a depot of the second form. -/
def knownExtensions : List String :=
  ["noop", "noop-v1", "preciousobjects", "partialclone", "objectformat", "worktreeconfig"]

/-- The digests that names of objects can be made with. -/
def namingOf? (s : List Char) : Option Naming :=
  if s = "sha1".toList then some .short else if s = "sha256".toList then some .long else none

/-- Whether settings are those of a depot in a form that is known. -/
def hasKnownForm (settings : Config.Settings) : Bool :=
  let extensions := settings.filterMap fun e => Text.after? "extensions.".toList e.1
  match Config.value? settings formSetting with
  | none => true
  | some form =>
    (form = ['0'] && !extensions.any fun e =>
        e = "objectformat".toList || e = "noop-v1".toList) ||
      (form = ['1'] && (extensions.all fun e => knownExtensions.contains (String.ofList e)) &&
        (Config.value? settings "extensions.objectformat").all fun v => (namingOf? v).isSome)

/-- The settings of a depot, if they have the form of settings and the depot is kept in a form that
is known. -/
def settingsOf? (t : Tree) (kept : Place) : Option Config.Settings :=
  match (reach? t kept configName).bind t.at? with
  | some (.file content) => (Config.read? content).filter hasKnownForm
  | some (.sealed _) => none
  | _ => some []

/-- Whether settings say that a depot is about no directory; they only count if they also say in
which form the depot is kept. -/
def isBare (settings : Config.Settings) : Bool :=
  (Config.value? settings formSetting).isSome && Config.isOn settings "core.bare"

/-! ### Pointers -/

/-- What a file starts with that says where a depot is kept. -/
def pointerMark : List Char := "gitdir: ".toList

/-- The path in a file that says where a depot is kept. -/
def pointerOf? (content : List UInt8) : Option (List UInt8) :=
  match Text.after? pointerMark (Text.octets content) with
  | some s =>
    let path := (s.reverse.dropWhile fun c => c = '\n' || c = '\r').reverse
    if path.isEmpty then none else some (Text.ofOctets path)
  | none => none

/-- The place where a depot is kept by what a file in a directory says. -/
def pointedTo? (s : Site) (env : Environment) (dir : Place) (content : List UInt8) :
    Option Place :=
  ((pointerOf? content).bind (reach? s.tree dir)).filter (isKept s env)

/-- The depot that is about a directory in another one. -/
def nestedAt? (s : Site) (p : Place) : Option Place :=
  match (reach? s.tree p keptName).bind fun kept => (s.tree.at? kept).map (kept, ·) with
  | some (kept, .dir) => if isKept s ∅ kept then some kept else none
  | some (kept, .file content) => pointedTo? s ∅ kept.dropLast content
  | _ => none

/-! ### Around a place -/

/-- The directories above which nothing is looked for. -/
def ceilings (s : Site) (env : Environment) : List Place :=
  let paths := Text.splitOn ':' ((env.get? "GIT_CEILING_DIRECTORIES").getD "").toList
  (paths.filter (·.head? = some '/')).filterMap fun path =>
    reach? s.tree [] (bytesOf (String.ofList path))

/-- The innermost depot around a place, of as many as `left` directories. None is looked for around
a file that should say where one is and does not. -/
def findWithin (s : Site) (env : Environment) : (left : Nat) → Place → Option Location
  | left, p =>
    let at? (kept : Place) (top : Option Place) : Option Location :=
      some ⟨kept, sharedOf s env kept, top⟩
    let around : Option Location :=
      if isKept s env p then at? p none
      else
        match left with
        | 0 => none
        | left + 1 =>
          if (ceilings s env).contains p.dropLast then none else findWithin s env left p.dropLast
    match reach? s.tree p keptName with
    | none => around
    | some kept =>
      match s.tree.at? kept with
      | some .dir => if isKept s env kept then at? kept (some p) else around
      | some (.file content) =>
        (pointedTo? s env kept.dropLast content).bind fun kept => at? kept (some p)
      | some (.sealed _) => none
      | some (.link _) | none => around

/-- The depot that a variable names. -/
def named? (s : Site) (env : Environment) (path : String) : Option Location := do
  let p ← reach? s.tree s.cwd (bytesOf path)
  let kept ← match s.tree.at? p with
    | some .dir => if isKept s env p then some p else none
    | some (.file content) => pointedTo? s env p.dropLast content
    | _ => none
  return ⟨kept, sharedOf s env kept, some s.cwd⟩

/-- The directory that a depot is about, by its settings and the variables; `isSaid` says that a
variable named the depot. -/
def topOf? (s : Site) (env : Environment) (settings : Config.Settings) (isSaid : Bool)
    (l : Location) : Option Place :=
  match env.get? "GIT_WORK_TREE", Config.value? settings "core.worktree" with
  | some path, _ => reach? s.tree s.cwd (bytesOf path)
  | none, some path =>
    if isBare settings then none else reach? s.tree l.kept (Text.ofOctets path)
  | none, none =>
    if isBare settings || (isSaid && (env.get? "GIT_IMPLICIT_WORK_TREE").any fun v =>
        Config.truth? v.toList = some false) then none
    else l.top

/-- The depot that is meant in the working directory, with its settings. -/
def meant? (s : Site) (env : Environment) : Option (Location × Config.Settings) := do
  let (isSaid, l) ← match env.get? "GIT_DIR" with
    | some path => (named? s env path).map (true, ·)
    | none => (findWithin s env s.cwd.length s.cwd).map (false, ·)
  let settings ← settingsOf? s.tree l.shared
  let own ← if Config.isOn settings "extensions.worktreeconfig" then
      match contentAt? s.tree l.kept (bytesOf "config.worktree") with
      | some content => Config.read? content
      | none => some []
    else some []
  let settings := settings ++ own
  return ({ l with top := topOf? s env settings isSaid l }, settings)

/-! ### By address -/

/-- What may have to be added to a path to get where a depot is kept. -/
def pathEndings : List (List UInt8) := ["/.git", "", ".git/.git", ".git"].map bytesOf

/-- The place where a depot is kept, by a path with one of the endings. A file that says where one
is ends the search, and so does any other file if `stopsAtFile`. -/
def keptAmong? (s : Site) (env : Environment) (stopsAtFile : Bool) (path : List UInt8) :
    List (List UInt8) → Option Place
  | [] => none
  | ending :: endings =>
    match s.locate true (path ++ ending) with
    | .ok (.place p) =>
      match s.tree.at? p with
      | some .dir => if isKept s env p then some p else keptAmong? s env stopsAtFile path endings
      | some (.file content) =>
        if stopsAtFile || (Text.after? pointerMark (Text.octets content)).isSome then
          pointedTo? s env p.dropLast content
        else keptAmong? s env stopsAtFile path endings
      | _ => keptAmong? s env stopsAtFile path endings
    | .ok (.free _ _) | .error _ => keptAmong? s env stopsAtFile path endings

/-- A path without the slashes at its end, if there is something in front of them. -/
def withoutEndSlashes (path : List UInt8) : List UInt8 :=
  match Site.withoutSlashes path with
  | [] => path.take 1
  | path => path

/-- The place where a depot is kept, by a path that is served to others. -/
def servedAt? (s : Site) (path : List UInt8) : Option Place :=
  keptAmong? s ∅ true (withoutEndSlashes path) pathEndings

/-- A text in which a percent sign and two digits stand for the character with that number, unless
it is zero. -/
def percentDecoded : List Char → List Char
  | '%' :: a :: b :: s =>
    let n := Object.digitValue a * 16 + Object.digitValue b
    if Glob.isHexDigit a && Glob.isHexDigit b && n ≠ 0 then Char.ofNat n :: percentDecoded s
    else '%' :: percentDecoded (a :: b :: s)
  | c :: s => c :: percentDecoded s
  | [] => []
  termination_by s => s.length

/-- What the addresses of files start with. -/
def fileScheme : List Char := "file://".toList

/-- The path in an address of a file; in front of it may be the name of a machine, which does not
matter. -/
def pathOfAddress? (address : List Char) : Option (List UInt8) :=
  match Text.after? fileScheme address with
  | some s =>
    match (percentDecoded s).dropWhile (· ≠ '/') with
    | [] => none
    | path => some (Text.ofOctets path)
  | none => none

/-- Whether an address is a path: no colon stands in front of its first slash. -/
def isPath (address : List Char) : Bool := !(address.takeWhile (· ≠ '/')).contains ':'

/-- The path from the root to a place. -/
def rootedPath (p : Place) : List UInt8 := p.flatMap fun name => slash :: name

/-- The place where a depot is kept, by the address that a clone is asked for with; and the address
at which the clone finds it later. -/
def ofAddress? (s : Site) (env : Environment) (address : String) : Option (Place × List Char) :=
  let bytes := bytesOf address
  match keptAmong? s env false bytes pathEndings with
  | some kept =>
    let path := if isRooted bytes then bytes else rootedPath s.cwd ++ slash :: bytes
    (servedAt? s (rootedPath kept)).map (·, Text.octets path)
  | none =>
    let text := Text.octets bytes
    ((pathOfAddress? text).bind (servedAt? s)).map (·, text)

/-- The place where a depot is kept, by an address in the settings of another one. -/
def ofStoredAddress? (s : Site) (top : Place) (address : List Char) : Option Place :=
  match pathOfAddress? address with
  | some path => servedAt? s path
  | none =>
    if isPath address && !address.isEmpty then
      servedAt? { s with cwd := top } (Text.ofOctets address)
    else none

end GameFixes.Depot
