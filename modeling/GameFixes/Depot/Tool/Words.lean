import GameFixes.Text.Find

/-!
# Words of commands

A command of the version control tool is followed by options and operands. Options have long names,
which may be cut short as long as it is clear which one is meant, and letters, of which several may
share a word. Most of them can be taken back by the same name with `no-` in front.
-/

namespace GameFixes.Depot.Tool

/-- Whether a value belongs to an option. -/
inductive Arity
  | alone
  /-- It may stand in the same word. -/
  | perhaps
  | needed
  deriving DecidableEq, Repr

/-- An option that a command knows. -/
structure OptionRule where
  letter : Option Char
  /-- The long name; an option that has only a letter is called by that. -/
  name : String
  hasLongName : Bool
  arity : Arity
  /-- Whether it cannot be taken back. -/
  isFinal : Bool
  deriving DecidableEq, Repr

/-- The rule that a word says: the letter and a colon, the long name, a sign for the value and a mark
for what cannot be taken back, each of them if there is one. -/
def OptionRule.ofText (s : List Char) : OptionRule :=
  let (letter, s) := match s with
    | c :: ':' :: s => (some c, s)
    | s => (none, s)
  let (isFinal, s) := match Text.dropLast? '!' s with
    | some s => (true, s)
    | none => (false, s)
  let (arity, s) := match Text.dropLast? '=' s, Text.dropLast? '?' s with
    | some s, _ => (Arity.needed, s)
    | none, some s => (.perhaps, s)
    | none, none => (.alone, s)
  ⟨letter, if s = [] then String.ofList letter.toList else String.ofList s, s ≠ [], arity, isFinal⟩

/-- The rules that a text says, one a word. -/
def rulesOf (text : String) : List OptionRule :=
  ((Text.splitOn ' ' text.toList).filter (· ≠ [])).map OptionRule.ofText

/-- An option as it was given. -/
structure Given where
  name : String
  value : Option String := none
  /-- Whether it was taken back. -/
  isOff : Bool := false
  deriving DecidableEq, Repr

/-- The words behind a command. -/
structure Words where
  options : List Given := []
  operands : List String := []
  /-- How many operands stand in front of two hyphens, if those are there. -/
  marked : Option Nat := none
  deriving DecidableEq, Repr

namespace Words

/-- The options with a name that count: what was taken back does not, nor what came before. -/
def counting (w : Words) (name : String) : List Given :=
  (((w.options.filter (·.name = name)).reverse.takeWhile (!·.isOff))).reverse

/-- Whether an option is there. -/
def has (w : Words) (name : String) : Bool := !(w.counting name).isEmpty

/-- Whether an option was taken back last. -/
def hasOff (w : Words) (name : String) : Bool :=
  ((w.options.filter (·.name = name)).getLast?).any (·.isOff)

/-- The values of an option. -/
def values (w : Words) (name : String) : List String :=
  (w.counting name).filterMap (·.value)

/-- The last value of an option. -/
def value? (w : Words) (name : String) : Option String := (w.values name).getLast?

/-- The last of some options that was given, or taken back. -/
def last? (w : Words) (names : List String) : Option Given :=
  (w.options.filter (names.contains ·.name)).getLast?

end Words

/-! ### Long names -/

/-- The names that an option goes by, and whether they take it back. -/
def OptionRule.forms (r : OptionRule) : List (List Char × Bool) :=
  let name := r.name.toList
  let opposite := match Text.after? "no-".toList name with
    | some rest => [(rest, true)]
    | none => []
  if !r.hasLongName then []
  else if r.isFinal then [(name, false)]
  else (name, false) :: ("no-".toList ++ name, true) :: opposite

/-- The option that a name means, and whether it is taken back: the one with that name, or else the
only one whose name starts so. -/
def optionMeant? (rules : List OptionRule) (name : List Char) : Option (OptionRule × Bool) :=
  let forms := rules.flatMap fun r => r.forms.map fun (form, isOff) => (form, r, isOff)
  match forms.find? (·.1 = name) with
  | some (_, r, isOff) => some (r, isOff)
  | none =>
    let starting := forms.filter fun e => (Text.after? name e.1).isSome
    match starting with
    | (_, r, isOff) :: rest => if rest.all (·.2.1 = r) then some (r, isOff) else none
    | [] => none

/-- Reads the long option of a word and what belongs to it. -/
def readLong? (rules : List OptionRule) (args : List String) (s : List Char) :
    Option (Given × List String) := do
  let name := s.takeWhile (· ≠ '=')
  let (r, isOff) ← optionMeant? rules name
  let value? : Option String := match s.drop name.length with
    | _ :: value => some (String.ofList value)
    | [] => none
  match isOff, r.arity, value?, args with
  | true, _, none, args => some (⟨r.name, none, true⟩, args)
  | true, _, some _, _ => none
  | false, .alone, none, args => some (⟨r.name, none, false⟩, args)
  | false, .alone, some _, _ => none
  | false, .perhaps, value?, args => some (⟨r.name, value?, false⟩, args)
  | false, .needed, some value, args => some (⟨r.name, some value, false⟩, args)
  | false, .needed, none, value :: args => some (⟨r.name, some value, false⟩, args)
  | false, .needed, none, [] => none

/-! ### Letters -/

/-- Reads the letters of a word; one that takes a value takes the rest of the word, or the next word
if it needs one. -/
def readLetters? (rules : List OptionRule) (args : List String) :
    List Char → Option (List Given × List String)
  | [] => some ([], args)
  | c :: s =>
    match rules.find? (·.letter = some c) with
    | none => none
    | some r =>
      match r.arity, s, args with
      | .alone, s, _ =>
        (readLetters? rules args s).map fun (l, args) => (⟨r.name, none, false⟩ :: l, args)
      | .perhaps, [], _ => some ([⟨r.name, none, false⟩], args)
      | .needed, [], value :: args => some ([⟨r.name, some value, false⟩], args)
      | .needed, [], [] => none
      | _, s, _ => some ([⟨r.name, some (String.ofList s), false⟩], args)

/-! ### Words -/

/-- The words with an operand in front. -/
def Words.addOperand (arg : String) (w : Words) : Words :=
  { w with operands := arg :: w.operands, marked := w.marked.map (· + 1) }

/-- The words with options in front. -/
def Words.addOptions (l : List Given) (w : Words) : Words := { w with options := l ++ w.options }

/-- Reads the words behind a command. If `stops`, there are no options behind an operand. -/
def readWords? (rules : List OptionRule) (stops : Bool) : (fuel : Nat) → List String → Option Words
  | 0, args => if args.isEmpty then some {} else none
  | _ + 1, [] => some {}
  | fuel + 1, arg :: args =>
    if arg = "--" then some { operands := args, marked := some 0 }
    else if arg = "--end-of-options" then some { operands := args }
    else
      match arg.toList with
      | '-' :: '-' :: s =>
        match readLong? rules args s with
        | some (given, args) => (readWords? rules stops fuel args).map (·.addOptions [given])
        | none => none
      | '-' :: c :: s =>
        match readLetters? rules args (c :: s) with
        | some (l, args) => (readWords? rules stops fuel args).map (·.addOptions l)
        | none => none
      | _ =>
        if stops then some { operands := arg :: args }
        else (readWords? rules stops fuel args).map (·.addOperand arg)

/-- Reads the words behind a command that knows some options. -/
def words? (rules : String) (args : List String) : Option Words :=
  readWords? (rulesOf rules) false (args.length + 1) args

/-- Reads the words behind a command whose options stand in front. -/
def leadingWords? (rules : String) (args : List String) : Option Words :=
  readWords? (rulesOf rules) true (args.length + 1) args

end GameFixes.Depot.Tool
