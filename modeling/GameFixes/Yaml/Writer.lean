import GameFixes.Outline
import GameFixes.Yaml.Scalar

/-!
# Writing YAML

The YAML text of an outline in block style. Fields are indented by two blanks for each level; the
items of a list that is the value of a field are not indented further. Keys that are long or run
over several lines stand behind a question mark.
-/

namespace GameFixes.Yaml

/-- A text as full lines: a line feed is added unless the text ends with a line break. -/
def closed (s : List Char) : List Char :=
  if s.getLast?.any isBreak then s else s ++ ['\n']

/-- A truth value. -/
def flag (b : Bool) : List Char := if b then "true".toList else "false".toList

mutual

/-- The lines of an outline behind a dash or a question mark's colon, on whose line it starts;
the lines that follow are indented. -/
def compact (indent : Nat) : Outline → List Char
  | .flag b => closed (flag b)
  | .text s => closed (scalar indent s)
  | .items [] => closed "[]".toList
  | .fields [] => closed "{}".toList
  | .items l => (items indent l).drop indent
  | .fields l => (fields indent l).drop indent

/-- The lines of a list. -/
def items (indent : Nat) : List Outline → List Char
  | [] => []
  | o :: l => indentation indent ++ ['-', ' '] ++ compact (indent + 2) o ++ items indent l

/-- The rest of a field behind the colon of its key. -/
def value (indent : Nat) : Outline → List Char
  | .flag b => ' ' :: closed (flag b)
  | .text s => ' ' :: closed (scalar (indent + 2) s)
  | .items [] => ' ' :: closed "[]".toList
  | .fields [] => ' ' :: closed "{}".toList
  | .items l => '\n' :: items indent l
  | .fields l => '\n' :: fields (indent + 2) l

/-- The lines of fields. -/
def fields (indent : Nat) : List (String × Outline) → List Char
  | [] => []
  | (k, o) :: l =>
    (if isSimpleKey k then indentation indent ++ scalar (indent + 2) k ++ ':' :: value indent o
    else
      indentation indent ++ ['?', ' '] ++ closed (scalar (indent + 2) k) ++ indentation indent ++
        [':', ' '] ++ compact (indent + 2) o) ++ fields indent l

end

/-- The YAML text of an outline. -/
def render (o : Outline) : String := String.ofList (compact 0 o)

end GameFixes.Yaml
