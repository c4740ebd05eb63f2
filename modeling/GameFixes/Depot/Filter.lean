import GameFixes.Depot.Glob
import GameFixes.Text.Find
import GameFixes.Text.Utf8

/-!
# Filters

Commands that a depot lets the content of a file run through. They are lines for a shell, of which
some plain ones are known: to copy, to replace characters, to replace a word, to say something, and
chains of these. Any other command is taken for one that cannot be run.
-/

namespace GameFixes.Depot.Filter

/-! ### Command lines -/

/-- Reads the words of a command line: blanks stand between them, and quotes and backslashes keep
characters as they are. `word` is the word so far, backwards, if there is one. -/
def readWords? : (quote : Option Char) → (word : Option (List Char)) → List Char →
    Option (List (List Char))
  | none, word, [] => some (word.toList.map List.reverse)
  | some _, _, [] => none
  | none, word, c :: s =>
    if c = '\'' || c = '"' then readWords? (some c) (some (word.getD [])) s
    else if Glob.isSpace c then
      (readWords? none none s).map (word.toList.map List.reverse ++ ·)
    else if c = '\\' then
      match s with
      | d :: s => readWords? none (some (d :: word.getD [])) s
      | [] => none
    else if "&;<>()$`*?[]~\x7b\x7d".toList.contains c then none
    else readWords? none (some (c :: word.getD [])) s
  | some q, word, c :: s =>
    if c = q then readWords? none word s
    else if q = '"' && (c = '$' || c = '`') then none
    else if q = '"' && c = '\\' then
      match s with
      | d :: s =>
        if "\"\\$`".toList.contains d then readWords? (some q) (some (d :: word.getD [])) s
        else readWords? (some q) (some (d :: c :: word.getD [])) s
      | [] => none
    else readWords? (some q) (some (c :: word.getD [])) s

/-! ### Replacing characters -/

/-- The character that a letter behind a backslash stands for. -/
def escaped (c : Char) : Char :=
  ([('n', '\n'), ('r', '\r'), ('t', '\t'), ('f', '\x0c'), ('v', '\x0b'), ('a', '\x07'),
    ('b', '\x08')].lookup c).getD c

/-- The characters between two, in order. -/
def charsBetween (a b : Char) : List Char :=
  (List.range (b.toNat + 1 - a.toNat)).map fun i => Char.ofNat (a.toNat + i)

/-- The characters that a set names one by one, by ranges and by classes. -/
def charsOfSet : (fuel : Nat) → List Char → List Char
  | 0, _ => []
  | fuel + 1, s =>
    match s with
    | [] => []
    | '[' :: ':' :: rest =>
      let name := rest.takeWhile (· ≠ ':')
      match Glob.namedClasses.lookup name, rest.drop name.length with
      | some isMember, ':' :: ']' :: rest =>
        ((List.range 256).map Char.ofNat).filter isMember ++ charsOfSet fuel rest
      | _, _ => '[' :: charsOfSet fuel (':' :: rest)
    | '\\' :: c :: '-' :: d :: rest => charsBetween (escaped c) d ++ charsOfSet fuel rest
    | '\\' :: c :: rest => escaped c :: charsOfSet fuel rest
    | a :: '-' :: b :: rest => charsBetween a b ++ charsOfSet fuel rest
    | c :: rest => c :: charsOfSet fuel rest

/-- The characters that a set names. -/
def setOf (s : List Char) : List Char := charsOfSet (s.length + 1) s

/-- A text with the characters of one set replaced by those of another one, whose last character
stands for all that are missing in it. -/
def translated (old new : List Char) (s : List Char) : List Char :=
  let new := new ++ List.replicate (old.length - new.length) (new.getLast?.getD ' ')
  -- Of two characters for the same one, the last counts.
  let pairs := (old.zip new).reverse
  s.map fun c => (pairs.lookup c).getD c

/-! ### Replacing a word -/

/-- A text with the first place where a word occurs replaced, or all such places. -/
def substituted (word new : List Char) (isForAll : Bool) : (fuel : Nat) → List Char → List Char
  | 0, s => s
  | fuel + 1, s =>
    match Text.splitFirst? word s with
    | some (before, rest) =>
      before ++ new ++ if isForAll then substituted word new isForAll fuel rest else rest
    | none => s

/-- What a script for replacing a word in each line makes of a text, if it is one. -/
def edited? (script s : List Char) : Option (List Char) :=
  match script with
  | 's' :: separator :: rest =>
    match Text.splitOn separator rest with
    | [word, new, flags] =>
      let isPlain (t : List Char) : Bool := !t.any fun c => ".*[]\\^$&".toList.contains c
      if word ≠ [] && isPlain word && isPlain new && (flags = [] || flags = ['g']) then
        some (List.intercalate ['\n'] ((Text.splitOn '\n' s).map fun line =>
          substituted word new (flags = ['g']) (line.length + 1) line))
      else none
    | _ => none
  | _ => none

/-! ### Commands -/

/-- What a command makes of a text, if it can be run and does not fail. -/
def runWords? (words : List (List Char)) (s : List Char) : Option (List Char) :=
  match words with
  | name :: args =>
    match String.ofList name, args with
    | "cat", [] => some s
    | "true", _ | ":", _ => some []
    | "tr", [old, new] =>
      if old = "-d".toList then some (s.filter fun c => !(setOf new).contains c)
      else some (translated (setOf old) (setOf new) s)
    | "sed", [script] => edited? script s
    | "sed", [option, script] => if option = "-e".toList then edited? script s else none
    | "echo", words => some (List.intercalate [' '] words ++ ['\n'])
    | "printf", [text] =>
      if text.contains '%' || text.contains '\\' then none else some text
    | _, _ => none
  | [] => some []

/-- What a line of commands makes of a content, if they can be run and do not fail. -/
def run? (line : List Char) (content : List UInt8) : Option (List UInt8) := do
  let parts ← (Text.splitOn '|' line).mapM (readWords? none none)
  let s ← parts.foldlM (fun s words => runWords? words s) (Text.octets content)
  return Text.ofOctets s

end GameFixes.Depot.Filter
