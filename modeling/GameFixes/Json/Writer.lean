import GameFixes.Outline

/-!
# Writing JSON

The JSON text of an outline, two blanks of indentation for each level, one item or member on a line.
-/

namespace GameFixes.Json

/-- The lower-case hexadecimal digit of a number below sixteen. -/
def hexDigit (n : Nat) : Char := (Nat.digitChar n)

/-- A character inside a JSON string. -/
def escapeChar (c : Char) : List Char :=
  if c = '"' then ['\\', '"']
  else if c = '\\' then ['\\', '\\']
  else if c = '\n' then ['\\', 'n']
  else if c = '\r' then ['\\', 'r']
  else if c = '\t' then ['\\', 't']
  else if c = '\x08' then ['\\', 'b']
  else if c = '\x0c' then ['\\', 'f']
  else if c.toNat < 0x20 then
    ['\\', 'u', '0', '0', hexDigit (c.toNat / 16), hexDigit (c.toNat % 16)]
  else [c]

/-- A JSON string. -/
def quote (s : List Char) : List Char := '"' :: (s.flatMap escapeChar ++ ['"'])

/-- A line feed and the indentation of a level. -/
def newline (level : Nat) : List Char := '\n' :: List.replicate (2 * level) ' '

mutual

/-- The JSON text of an outline whose closing bracket stands at a level. -/
def pretty (level : Nat) : Outline → List Char
  | .flag true => "true".toList
  | .flag false => "false".toList
  | .text s => quote s.toList
  | .items [] => ['[', ']']
  | .items (o :: l) =>
    '[' :: (newline (level + 1) ++ pretty (level + 1) o ++ prettyItems level l)
  | .fields [] => ['{', '}']
  | .fields ((k, o) :: l) =>
    '{' :: (newline (level + 1) ++ quote k.toList ++ [':', ' '] ++ pretty (level + 1) o ++
      prettyFields level l)

/-- The items after the first, and the closing bracket. -/
def prettyItems (level : Nat) : List Outline → List Char
  | [] => newline level ++ [']']
  | o :: l => ',' :: (newline (level + 1) ++ pretty (level + 1) o ++ prettyItems level l)

/-- The members after the first, and the closing brace. -/
def prettyFields (level : Nat) : List (String × Outline) → List Char
  | [] => newline level ++ ['}']
  | (k, o) :: l =>
    ',' :: (newline (level + 1) ++ quote k.toList ++ [':', ' '] ++ pretty (level + 1) o ++
      prettyFields level l)

end

/-- The JSON text of an outline. -/
def render (o : Outline) : String := String.ofList (pretty 0 o)

end GameFixes.Json
