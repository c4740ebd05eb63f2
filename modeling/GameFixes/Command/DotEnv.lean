import GameFixes.Settings
import GameFixes.Text.Alphanumeric
import GameFixes.Text.Find
import GameFixes.Text.Utf8

/-!
# Environment files

A file of variables, one assignment on a line. A value may be quoted and then run over several
lines, and may name other variables. The first line that is no assignment ends the file; the
assignments before it count.
-/

namespace GameFixes.DotEnv

/-! ### Logical lines -/

/-- What the characters of a line so far mean for the next one. -/
inductive Openness
  | plain
  /-- After a blank. -/
  | blank
  /-- After a backslash. -/
  | escape
  /-- Inside double quotes. -/
  | weak
  | weakEscape
  /-- Inside single quotes. -/
  | strong
  | strongEscape
  deriving DecidableEq, Repr

/-- How a character outside quotes is read. -/
def openedBy (c : Char) : Openness :=
  if c = '\\' then .escape else if c = '"' then .weak else if c = '\'' then .strong else .plain

/-- How a character is read; `none` at the start of a comment. -/
def Openness.next (state : Openness) (c : Char) : Option Openness :=
  match state with
  | .blank => if c = '#' then none else some (openedBy c)
  | .plain =>
    if Text.isBlank c && c ≠ '\n' && c ≠ '\r' then some .blank else some (openedBy c)
  | .escape => some .plain
  | .weak => some (if c = '\\' then .weakEscape else if c = '"' then .plain else .weak)
  | .weakEscape => some .weak
  | .strong => some (if c = '\\' then .strongEscape else if c = '\'' then .plain else .strong)
  | .strongEscape => some .strong

/-- The part of a line in front of a comment, and how it ends; `none` if there is a comment. -/
def scan : Openness → List Char → List Char × Option Openness
  | state, [] => ([], some state)
  | state, c :: s =>
    match state.next c with
    | none => ([], none)
    | some state => let (kept, last) := scan state s; (c :: kept, last)

/-- The lines of bytes, each with its line feed. -/
def byteLines : List UInt8 → List (List UInt8)
  | [] => []
  | b :: bs =>
    if b = 0x0A then [b] :: byteLines bs
    else
      match byteLines bs with
      | [] => [[b]]
      | l :: ls => (b :: l) :: ls

/-- Joins lines until no quote is open. What starts with the mark of a comment is blank. The last
element is `none` if something stays open, or if a line is no text. -/
def logicalLines : (buffer : List Char) → Openness → List (List UInt8) → List (Option (List Char))
  | _, state, [] => if state = .plain then [] else [none]
  | buffer, state, bytes :: rest =>
    match Text.decode? bytes with
    | none => [none]
    | some line =>
      let joined := buffer ++ line
      if (Text.trimStart joined).head? = some '#' then some [] :: logicalLines [] .plain rest
      else
        match scan state line with
        | (kept, none) => some (buffer ++ kept) :: logicalLines [] .plain rest
        | (_, some .plain) => some joined :: logicalLines [] .plain rest
        | (_, some state) => logicalLines joined state rest

/-! ### Values -/

/-- How a name of a variable inside a value is read. -/
inductive Naming
  /-- There is none. -/
  | none
  /-- After a dollar sign; the name is as long as it can be. -/
  | bare (name : List Char)
  /-- Inside braces. -/
  | braced (name : List Char)
  deriving DecidableEq, Repr

/-- The state of reading a value. -/
structure ValueState where
  /-- The value so far, backwards. -/
  output : List Char := []
  isStrong : Bool := false
  isWeak : Bool := false
  isEscaped : Bool := false
  /-- Whether the value has ended and only blanks and a comment may follow. -/
  isEnded : Bool := false
  naming : Naming := .none
  deriving DecidableEq, Repr

/-- A variable as it is listed: its name, a sign and its value. -/
def entryText (e : String × String) : List Char := e.1.toList ++ '=' :: e.2.toList

/-- The value of a variable, or nothing. A name is looked for at the start of the listed variables,
with a sign behind it, so that it may have signs in it too. -/
def valueOf (env : Environment) (name : List Char) : List Char :=
  if name.isEmpty then []
  else (env.entries.findSome? fun e => Text.after? (name ++ ['=']) (entryText e)).getD []

/-- Adds a character to a value. -/
def ValueState.push (v : ValueState) (c : Char) : ValueState := { v with output := c :: v.output }

/-- Adds the value of a variable to a value. -/
def ValueState.substitute (v : ValueState) (env : Environment) (name : List Char) : ValueState :=
  { v with output := (valueOf env name).reverse ++ v.output, naming := .none }

/-- Reads a character after a backslash. -/
def readEscaped (v : ValueState) (c : Char) : Option ValueState :=
  let v := { v with isEscaped := false }
  if c ∈ ['\\', '\'', '"', '$', ' '] then some (v.push c)
  else if c = 'n' then some (v.push '\n')
  else none

/-- Reads a character of a name after a dollar sign, or the one that ends it. -/
def readBare (env : Environment) (v : ValueState) (name : List Char) (c : Char) : ValueState :=
  if Text.isAlphanumeric c then { v with naming := .bare (name ++ [c]) }
  else if c = '{' && name.isEmpty then { v with naming := .braced [] }
  else if c = '$' then { v.substitute env name with naming := .bare [] }
  else (v.substitute env name).push c

/-- Reads a character of a name inside braces, or the brace that ends it. -/
def readBraced (env : Environment) (v : ValueState) (name : List Char) (c : Char) : ValueState :=
  if c = '}' then v.substitute env name else { v with naming := .braced (name ++ [c]) }

/-- Reads a character outside single quotes and names. -/
def readOpen (v : ValueState) (c : Char) : ValueState :=
  if c = '$' then { v with naming := .bare [] }
  else if c = '\\' then { v with isEscaped := true }
  else if c = '"' then { v with isWeak := !v.isWeak }
  else if v.isWeak then v.push c
  else if c = '\'' then { v with isStrong := true }
  else if c = ' ' || c = '\t' then { v with isEnded := true }
  else v.push c

/-- Reads a character of a value whose end was not yet seen. -/
def readValueChar (env : Environment) (v : ValueState) (c : Char) : Option ValueState :=
  if v.isEscaped then readEscaped v c
  else if v.isStrong then
    some (if c = '\'' then { v with isStrong := false } else v.push c)
  else
    match v.naming with
    | .bare name => some (readBare env v name c)
    | .braced name => some (readBraced env v name c)
    | .none => some (readOpen v c)

/-- The value that a state ends with. -/
def ValueState.finish (env : Environment) (v : ValueState) : Option String :=
  if v.isStrong || v.isWeak then none
  else
    match v.naming with
    | .none => some (String.ofList v.output.reverse)
    | .bare name => some (String.ofList (v.substitute env name).output.reverse)
    | .braced _ => none

/-- Reads the rest of a value. -/
def readValue (env : Environment) (v : ValueState) : List Char → Option String
  | [] => v.finish env
  | c :: s =>
    if v.isEnded then
      if c = ' ' || c = '\t' then readValue env v s
      else if c = '#' then v.finish env
      else none
    else
      match readValueChar env v c with
      | some v => readValue env v s
      | none => none

/-! ### Assignments -/

/-- Whether a character can start the name of a variable. -/
def startsKey (c : Char) : Bool := c.isAlpha || c = '_'

/-- Whether a character can be in the name of a variable on the left. -/
def isKeyChar (c : Char) : Bool := c.isAlphanum || c = '_' || c = '.'

/-- The name at the start of a line, and what follows it and the blanks after it. -/
def readKey? (line : List Char) : Option (List Char × List Char) :=
  match line with
  | c :: _ =>
    if startsKey c then
      some (line.takeWhile isKeyChar, Text.trimStart (line.dropWhile isKeyChar))
    else none
  | [] => none

/-- What follows the sign of an assignment. -/
def afterSign? : List Char → Option (List Char)
  | '=' :: s => some (Text.trimStart s)
  | _ => none

/-- The name and the value of a line, the value as it is written. The word `export` may stand in
front of the name, and may also be it. -/
def readAssignment? (line : List Char) : Option (List Char × List Char) := do
  let (key, rest) ← readKey? line
  match afterSign? rest with
  | some value => return (key, value)
  | none =>
    if key = "export".toList then
      let (key, rest) ← readKey? rest
      return (key, ← afterSign? rest)
    else none

/-- What a logical line says. -/
inductive Reading
  /-- Nothing, as it is blank or a comment. -/
  | nothing
  | assignment (name value : String)
  /-- It is no assignment. -/
  | fault
  deriving DecidableEq, Repr

/-- Whether there is nothing but a comment, if that. -/
def isIdle (s : List Char) : Bool := s.isEmpty || s.head? = some '#'

/-- Reads a logical line. -/
def readLine (env : Environment) (line : List Char) : Reading :=
  let line := Text.trim line
  if isIdle line then .nothing
  else
    match readAssignment? line with
    | none => .fault
    | some (key, value) =>
      if isIdle value then .assignment (String.ofList key) ""
      else
        match readValue env {} value with
        | some value => .assignment (String.ofList key) value
        | none => .fault

/-! ### Files -/

/-- Makes an assignment. One that does not override leaves a variable that is set as it is. No
variable can be set to a value with a NUL in it. -/
def assign? (overrides : Bool) (env : Environment) (name value : String) : Option Environment :=
  if !overrides && env.contains name then some env
  else if value.toList.contains '\x00' then none
  else some (env.insert name value)

/-- Makes the assignments of logical lines, up to the first that is none. -/
def applyLines? (overrides : Bool) :
    Environment → List (Option (List Char)) → Option Environment
  | env, [] => some env
  | env, none :: _ => some env
  | env, some line :: lines =>
    match readLine env line with
    | .nothing => applyLines? overrides env lines
    | .assignment name value =>
      match assign? overrides env name value with
      | some env => applyLines? overrides env lines
      | none => none
    | .fault => some env

/-- The bytes of a file without a mark of the byte order at their start. -/
def withoutMark : List UInt8 → List UInt8
  | 0xEF :: 0xBB :: 0xBF :: bytes => bytes
  | bytes => bytes

/-- Makes the assignments of a file; `none` if one of them cannot be made. -/
def load? (overrides : Bool) (env : Environment) (content : List UInt8) : Option Environment :=
  applyLines? overrides env (logicalLines [] .plain (byteLines (withoutMark content)))

end GameFixes.DotEnv
