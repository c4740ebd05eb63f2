/-!
# Command grammars

What the words after the name of a program may be: options, operands and commands with words of
their own. Words are read from left to right, and the first that is wrong, or that asks for help,
ends the reading.
-/

namespace GameFixes.Command

/-- What the values of an option or operand may be. -/
inductive ValueKind
  /-- Any text. -/
  | text
  /-- Any text but the empty one. -/
  | path
  /-- One of some words. -/
  | oneOf (words : List String)
  deriving DecidableEq, Repr

/-- Whether a value is of a kind. -/
def ValueKind.admits : ValueKind → String → Bool
  | .text, _ => true
  | .path, v => v ≠ ""
  | .oneOf words, v => words.contains v

/-- An option, by its name without the two dashes; one without values is a flag. -/
structure OptionRule where
  name : String
  value : Option ValueKind := none
  deriving DecidableEq, Repr

/-- What may follow the name of a command. -/
inductive Grammar
  | mk (options : List OptionRule) (operands : List ValueKind) (hasVersion : Bool)
      (needsCommand : Bool) (commands : List (String × Grammar))

namespace Grammar

def options : Grammar → List OptionRule
  | .mk options _ _ _ _ => options

def operands : Grammar → List ValueKind
  | .mk _ operands _ _ _ => operands

def hasVersion : Grammar → Bool
  | .mk _ _ hasVersion _ _ => hasVersion

def needsCommand : Grammar → Bool
  | .mk _ _ _ needsCommand _ => needsCommand

def commands : Grammar → List (String × Grammar)
  | .mk _ _ _ _ commands => commands

/-- The command of a name. -/
def command? (g : Grammar) (name : String) : Option Grammar := g.commands.lookup name

/-- The option of a name. -/
def option? (g : Grammar) (name : String) : Option OptionRule :=
  g.options.find? fun o => o.name = name

end Grammar

/-- The words that were read for one command. -/
structure Level where
  /-- The name of the command, or nothing for the program itself. -/
  name : String := ""
  /-- The options that were given, a flag with an empty value. -/
  options : List (String × String) := []
  operands : List String := []
  deriving DecidableEq, Repr

/-- The value of an option, if it was given. -/
def Level.option? (l : Level) (name : String) : Option String := l.options.lookup name

/-- Whether an option was given. -/
def Level.has (l : Level) (name : String) : Bool := (l.option? name).isSome

/-- Why nothing is to be done. -/
inductive Ending
  /-- Help was asked for. -/
  | help
  /-- The version was asked for. -/
  | version
  /-- The words do not follow the grammar. -/
  | misuse
  deriving DecidableEq, Repr

/-! ### Kinds of words -/

/-- What a word looks like. -/
inductive Shape
  /-- Two dashes: only operands follow. -/
  | escape
  /-- Two dashes and a name, maybe with a value behind a sign of equality. -/
  | long (name : String) (value : Option String)
  /-- A dash and letters. -/
  | short (letters : List Char)
  | plain
  deriving DecidableEq, Repr

/-- The name and the value of an option that may carry its value. -/
def splitValue (s : List Char) : String × Option String :=
  match s.dropWhile (· ≠ '=') with
  | [] => (String.ofList s, none)
  | _ :: value => (String.ofList (s.takeWhile (· ≠ '=')), some (String.ofList value))

/-- What a word looks like. -/
def shapeOf (word : String) : Shape :=
  match word.toList with
  | ['-', '-'] => .escape
  | '-' :: '-' :: s => let (name, value) := splitValue s; .long name value
  | '-' :: c :: s => .short (c :: s)
  | _ => .plain

/-! ### Reading -/

/-- Adds an option to a level, unless it was given before or its value is not of its kind. -/
def addOption (l : Level) (rule : OptionRule) (value : String) : Except Ending Level :=
  if l.has rule.name then .error .misuse
  else if (rule.value.map (·.admits value)).getD true then
    .ok { l with options := l.options ++ [(rule.name, value)] }
  else .error .misuse

/-- Adds an operand to a level, unless there are enough or its value is not of its kind. -/
def addOperand (g : Grammar) (l : Level) (value : String) : Except Ending Level :=
  match g.operands[l.operands.length]? with
  | some kind =>
    if kind.admits value then .ok { l with operands := l.operands ++ [value] }
    else .error .misuse
  | none => .error .misuse

/-- The end of the words: operands and a command must be there as far as they are needed. -/
def finish (g : Grammar) (l : Level) : Except Ending (List Level) :=
  if l.operands.length < g.operands.length || g.needsCommand then .error .misuse else .ok [l]

/-- What a request for help about commands leads to. -/
def helpOn : Grammar → List String → Ending
  | _, [] => .help
  | g, word :: words =>
    match g.command? word with
    | some g => helpOn g words
    | none => if word = "help" && words.isEmpty && !g.commands.isEmpty then .help else .misuse

/-- What the first of a dash's letters leads to: none of them is an option. -/
def shortEnding (g : Grammar) : List Char → Ending
  | 'h' :: _ => .help
  | 'V' :: _ => if g.hasVersion then .version else .misuse
  | _ => .misuse

/-- What an option without a rule leads to. -/
def longEnding (g : Grammar) (name : String) (value : Option String) : Ending :=
  if value.isSome then .misuse
  else if name = "help" then .help
  else if name = "version" && g.hasVersion then .version
  else .misuse

/-- Whether a word can be the value of an option that stands before it. -/
def isValueWord (word : String) : Bool := shapeOf word = .plain

/-- What the next word is taken for. -/
inductive Mode
  /-- Anything. -/
  | anything
  /-- The value of an option. -/
  | value (rule : OptionRule)
  /-- An operand. -/
  | operand
  deriving DecidableEq, Repr

/-- Adds an option to a level, or lets the next word be its value. -/
def readLong (g : Grammar) (l : Level) (name : String) (value : Option String) :
    Except Ending (Level × Mode) :=
  match g.option? name with
  | none => .error (longEnding g name value)
  | some rule =>
    match rule.value, value with
    | none, none => do return (← addOption l rule "", .anything)
    | none, some _ => .error .misuse
    | some _, some value => do return (← addOption l rule value, .anything)
    | some _, none => .ok (l, .value rule)

/-- Reads a word that is no command. -/
def readWord (g : Grammar) (l : Level) (word : String) : Except Ending (Level × Mode) :=
  match shapeOf word with
  | .escape => .ok (l, .operand)
  | .short letters => .error (shortEnding g letters)
  | .plain => do return (← addOperand g l word, .anything)
  | .long name value => readLong g l name value

/-- Reads the words of a command. -/
def read (g : Grammar) (l : Level) : Mode → List String → Except Ending (List Level)
  | .value _, [] => .error .misuse
  | .anything, [] | .operand, [] => finish g l
  | .value rule, word :: words =>
    if isValueWord word then do read g (← addOption l rule word) .anything words
    else .error .misuse
  | .operand, word :: words => do read g (← addOperand g l word) .operand words
  | .anything, word :: words =>
    match g.command? word with
    | some sub => do return l :: (← read sub { name := word } .anything words)
    | none =>
      if word = "help" && !g.commands.isEmpty then .error (helpOn g words)
      else do
        let (l, mode) ← readWord g l word
        read g l mode words

/-- Reads all words of a command line, those of each command on the way. -/
def readAll (g : Grammar) (words : List String) : Except Ending (List Level) :=
  read g {} .anything words

end GameFixes.Command
