import GameFixes.Operation
import GameFixes.Text.Blank

/-!
# Calls

A line of a script that calls one of the fix functions, and the operation that the call stands for.
A call is written `util.name(arguments)`; the arguments end at the parenthesis that closes the call,
or with the line if none does. They may be string literals, separated by commas.
-/

namespace GameFixes.Script

/-! ### Lists of string literals

A literal stands between two equal quote characters; a backslash protects the character after it.
Anything that is not a literal makes the whole list unreadable. -/

/-- The two characters that open and close a literal. -/
def isQuote (c : Char) : Bool := c == '\'' || c == '"'

/-- What a backslash and the character after it stand for: a protected backslash or quote is
itself, any other pair is kept as it is. -/
def unescape (c : Char) : List Char :=
  if c = '\\' ∨ isQuote c then [c] else ['\\', c]

/-- Where a reader of literals stands. -/
inductive LiteralPlace
  /-- Before a literal; after a comma the list may also end. -/
  | before (mayEnd : Bool)
  /-- Inside a literal opened by `q`. -/
  | inside (q : Char)
  /-- After a literal. -/
  | after
  deriving DecidableEq

/-- Puts characters in front of the first of some values. -/
def consChars (cs : List Char) : List (List Char) → List (List Char)
  | [] => [cs]
  | v :: vs => (cs ++ v) :: vs

/-- The values of the literals still to come; inside a literal the first value is the rest of
that literal's. -/
def readLiterals : LiteralPlace → List Char → Option (List (List Char))
  | .before mayEnd, [] => if mayEnd then some [] else none
  | .before mayEnd, c :: s =>
    if Text.isBlank c then readLiterals (.before mayEnd) s
    else if isQuote c then readLiterals (.inside c) s
    else none
  | .inside _, [] => none
  | .inside q, '\\' :: c :: s => (readLiterals (.inside q) s).map (consChars (unescape c))
  | .inside q, c :: s =>
    if c = q then (readLiterals .after s).map ([] :: ·)
    else (readLiterals (.inside q) s).map (consChars [c])
  | .after, [] => some []
  | .after, c :: s =>
    if Text.isBlank c then readLiterals .after s
    else if c = ',' then readLiterals (.before true) s
    else none

/-- The values of a comma separated list of one or more literals. -/
def literals? (raw : List Char) : Option (List (List Char)) := readLiterals (.before false) raw

/-! ### Lines with a call -/

/-- A call: the name of the function and the text between its parentheses, if it has any. -/
structure Call where
  name : List Char
  argument : Option (List Char)
  deriving DecidableEq

/-- How the argument text of a call becomes an argument. -/
inductive ArgumentStyle
  /-- Two literals become `key=value`, one literal becomes its value. -/
  | keyValue
  /-- The text is kept as it is, quotes included. -/
  | verbatim
  /-- One literal becomes its value. -/
  | plain
  deriving DecidableEq

/-- The style of each function's arguments. -/
def ArgumentStyle.ofName (name : String) : ArgumentStyle :=
  if name ∈ ["winedll_override", "set_environment", "replace_command"] then .keyValue
  else if name ∈ ["regedit_add", "append_arguments", "set_ini_options"] then .verbatim
  else .plain

/-- Whether a character opens a bracket. -/
def opensBracket (c : Char) : Bool := c == '(' || c == '[' || c == '{'

/-- Whether a character closes a bracket; any closing character closes any bracket. -/
def closesBracket (c : Char) : Bool := c == ')' || c == ']' || c == '}'

/-- The text up to the parenthesis that closes the call, or all of it, when `depth` brackets are
open inside the call and `quote` is the quote character of the literal that is open. -/
def upToClose : (depth : Nat) → (quote : Option Char) → List Char → List Char
  | _, _, [] => []
  | depth, some q, '\\' :: c :: s => '\\' :: c :: upToClose depth (some q) s
  | depth, some q, c :: s => c :: upToClose depth (if c = q then none else some q) s
  | depth, none, c :: s =>
    if isQuote c then c :: upToClose depth (some c) s
    else if opensBracket c then c :: upToClose (depth + 1) none s
    else if c = ')' ∧ depth = 0 then []
    else if closesBracket c then c :: upToClose (depth - 1) none s
    else c :: upToClose depth none s

/-- The text between the parentheses of a call, given what follows the function's name. -/
def argument? (s : List Char) : Option (List Char) :=
  (Text.after? ['('] (Text.trimStart s)).map fun inner => Text.trim (upToClose 0 none inner)

/-- How every call starts. -/
def callStart : List Char := "util.".toList

/-- Reads the call that a line starts with. -/
def Call.read? (line : List Char) : Option Call :=
  match Text.after? callStart line with
  | none => none
  | some s =>
    let name := s.takeWhile isIdentifierChar
    if name.isEmpty then none else some ⟨name, argument? (s.dropWhile isIdentifierChar)⟩

/-- The argument that a text stands for under a style. -/
def ArgumentStyle.argument (style : ArgumentStyle) (raw : List Char) : Argument :=
  match style, literals? raw with
  | .keyValue, some [k, v] => .labelled (String.ofList (k ++ '=' :: v))
  | .keyValue, some [v] => .labelled (String.ofList v)
  | .plain, some [v] => .labelled (String.ofList v)
  | _, _ => .call (String.ofList raw)

/-- The operation that a call stands for; empty parentheses are no argument. -/
def Call.operation (c : Call) : Operation :=
  let name := String.ofList c.name
  ⟨name, (c.argument.filter (!·.isEmpty)).map (ArgumentStyle.ofName name).argument⟩

end GameFixes.Script
