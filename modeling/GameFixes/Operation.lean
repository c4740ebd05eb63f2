import GameFixes.Text.Blank
import GameFixes.Text.Find

/-!
# Operations

One operation of a fix: a name and perhaps an argument. The canonical text form is what fixes are
listed and compared by; `Operation.parse` reads it back.
-/

namespace GameFixes

/-- The argument of an operation. -/
inductive Argument
  /-- A value, written `name: value`. -/
  | labelled (value : String)
  /-- The text between the parentheses of a call, written `name(raw)`. -/
  | call (raw : String)
  deriving DecidableEq, Repr

/-- The text of an argument, whichever way it is written. -/
def Argument.text : Argument → String
  | .labelled value => value
  | .call raw => raw

/-- One operation of a fix. -/
structure Operation where
  name : String
  argument : Option Argument := none
  deriving DecidableEq, Repr

/-- The characters of identifiers: ASCII letters, digits and the underscore. -/
def isIdentifierChar (c : Char) : Bool := c.isAlphanum || c == '_'

/-- An identifier is a non-empty text of identifier characters. -/
def isIdentifier (s : List Char) : Bool := !s.isEmpty && s.all isIdentifierChar

namespace Operation

/-- An operation without argument. -/
def bare (name : String) : Operation := ⟨name, none⟩

/-- An operation with a value. -/
def labelled (name value : String) : Operation := ⟨name, some (.labelled value)⟩

/-- An operation with the argument text of a call. -/
def call (name raw : String) : Operation := ⟨name, some (.call raw)⟩

/-- The marker for logic of a script that no operation stands for. -/
def additionalFixes : Operation := bare "additional_fixes"

/-- The text of the argument, if there is one. -/
def argumentText (o : Operation) : Option String := o.argument.map Argument.text

/-- The parts of a labelled argument before and after its first `=`. -/
def keyValue (o : Operation) : Option (String × String) :=
  match o.argument with
  | some (.labelled value) =>
    (Text.splitFirst? ['='] value.toList).map fun (k, v) => (String.ofList k, String.ofList v)
  | _ => none

/-- The canonical text form. -/
def text (o : Operation) : String :=
  match o.argument with
  | none => o.name
  | some (.labelled value) => o.name ++ ": " ++ value
  | some (.call raw) => o.name ++ "(" ++ raw ++ ")"

/-- Reads `name: value`. -/
def parseLabelled? (s : List Char) : Option Operation := do
  let (name, value) ← Text.splitFirst? [':', ' '] s
  if isIdentifier name then some (labelled (String.ofList name) (String.ofList value)) else none

/-- Reads `name(raw)`. -/
def parseCall? (s : List Char) : Option Operation := do
  let (name, rest) ← Text.splitFirst? ['('] s
  let raw ← Text.dropLast? ')' rest
  if isIdentifier name then some (call (String.ofList name) (String.ofList raw)) else none

/-- Reads the canonical text form; a text that has neither other shape names a bare operation. -/
def parse (s : String) : Operation :=
  let t := Text.trim s.toList
  (parseLabelled? t <|> parseCall? t).getD (bare (String.ofList t))

@[simp] theorem text_bare (name : String) : (bare name).text = name := rfl

@[simp] theorem text_labelled (name value : String) :
    (labelled name value).text = name ++ ": " ++ value := rfl

@[simp] theorem text_call (name raw : String) :
    (call name raw).text = name ++ "(" ++ raw ++ ")" := rfl

end Operation

end GameFixes
