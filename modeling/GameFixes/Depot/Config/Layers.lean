import GameFixes.Depot.Config.Edit
import GameFixes.Environment
import GameFixes.Tree.Site

/-!
# Layers of settings

Settings come from several places: from files for everybody and for one person, from the depot, from
variables and from the command line. What comes later counts more. A file may include others.
-/

namespace GameFixes.Depot.Config

/-! ### Files -/

/-- How deep files may include each other. -/
def includeLimit : Nat := 10

/-- A path in which a tilde at the start stands for the directory of the person. -/
def expanded (env : Environment) (path : List UInt8) : List UInt8 :=
  match path, env.get? "HOME" with
  | 0x7E :: 0x2F :: rest, some home => bytesOf home ++ slash :: rest
  | path, _ => path

/-- The path of the directory of a file, with a slash at its end. -/
def dirOf (path : List UInt8) : List UInt8 := (path.reverse.dropWhile (· ≠ slash)).reverse

/-- The settings in a file and in those that it includes; there are none where no file is. -/
def readFile? (s : Site) (env : Environment) : (depth : Nat) → List UInt8 → Option Settings
  | 0, _ => none
  | depth + 1, path =>
    match s.locate true path with
    | .ok (.place p) =>
      match s.tree.at? p with
      | some (.file content) => do
        let settings ← read? content
        let parts ← settings.mapM fun (e : List Char × Option (List Char)) =>
          match e with
          | (name, some value) =>
            if name = "include.path".toList then
              let path' := expanded env (Text.ofOctets value)
              let path' := if isRooted path' then path' else dirOf path ++ path'
              (readFile? s env depth path').map ((name, some value) :: ·)
            else some [(name, some value)]
          | e => some [e]
        return parts.flatten
      | some (.sealed _) => none
      | _ => some []
    | _ => some []

/-! ### Variables -/

/-- The settings that a text of quoted words says: each is a name, an equals sign and a value. -/
def readWords? : (fuel : Nat) → List Char → Option (List (List Char))
  | 0, _ => none
  | fuel + 1, s =>
    match s.dropWhile Glob.isSpace with
    | [] => some []
    | '\'' :: s => do
      let (word, rest) ← readQuote? (fuel + 1) s
      return word :: (← readWords? fuel rest)
    | _ => none
where
  /-- Reads a quoted word; a word goes on behind a quote that is escaped outside. -/
  readQuote? : (fuel : Nat) → List Char → Option (List Char × List Char)
    | 0, _ => none
    | fuel + 1, s =>
      let text := s.takeWhile (· ≠ '\'')
      match (s.dropWhile (· ≠ '\'')) with
      | '\'' :: '\\' :: '\'' :: '\'' :: rest =>
        (readQuote? fuel rest).map fun (more, rest) => (text ++ '\'' :: more, rest)
      | '\'' :: '=' :: '\'' :: rest =>
        (readQuote? fuel rest).map fun (more, rest) => (text ++ '=' :: more, rest)
      | '\'' :: rest => some (text, rest)
      | _ => none

/-- The setting that a word says: a name alone, or with an equals sign and a value. -/
def ofWord? (word : List Char) : Option (List Char × Option (List Char)) :=
  let name := word.takeWhile (· ≠ '=')
  (Key.ofText? name).map fun k =>
    match word.drop name.length with
    | [] => (k.name, none)
    | _ :: value => (k.name, some value)

/-- A text as characters with the numbers of its bytes. -/
def octetsOf (s : String) : List Char := Text.octets (bytesOf s)

/-- The settings that variables with numbers say. -/
def numbered? (env : Environment) : Option Settings :=
  match env.get? "GIT_CONFIG_COUNT" with
  | none => some []
  | some count =>
    match if count = "" then some 0 else count.toNat? with
    | some n => (List.range n).mapM fun i => do
      let k ← Key.ofText? (octetsOf (← env.get? ("GIT_CONFIG_KEY_" ++ toString i)))
      return (k.name, some (octetsOf (← env.get? ("GIT_CONFIG_VALUE_" ++ toString i))))
    | none => none

/-- The settings that variables say. -/
def ofVariables? (env : Environment) : Option Settings := do
  let first ← numbered? env
  let words := octetsOf ((env.get? "GIT_CONFIG_PARAMETERS").getD "")
  let second ← (← readWords? (words.length + 1) words).mapM ofWord?
  return first ++ second

/-- The settings for everybody and for one person, if all of their files can be read. -/
def ofPerson? (s : Site) (env : Environment) : Option Settings := do
  let read (path : String) := readFile? s env includeLimit (bytesOf path)
  let system := (env.get? "GIT_CONFIG_SYSTEM").getD "/etc/gitconfig"
  let forAll ← match (env.get? "GIT_CONFIG_NOSYSTEM").map fun v => truth? v.toList with
    | some (some true) => some []
    | some (some false) | none => read system
    | some none => none
  let own ← match env.get? "GIT_CONFIG_GLOBAL" with
    | some path => if path = "" then some [] else read path
    | none => do
      let home := (env.get? "HOME").map (· ++ "/.config")
      let first ← match (env.get? "XDG_CONFIG_HOME").filter (· ≠ "") |>.or home with
        | some dir => read (dir ++ "/git/config")
        | none => some []
      let second ← match env.get? "HOME" with
        | some dir => read (dir ++ "/.gitconfig")
        | none => some []
      return first ++ second
  return forAll ++ own

end GameFixes.Depot.Config
