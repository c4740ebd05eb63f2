import GameFixes.Outline

/-!
# JSON values

What a JSON text says. Numbers keep their spelling, objects keep the order and the repetitions of
their members. A string that spells a lone surrogate is well-formed, but there is no text that it
stands for.
-/

namespace GameFixes.Json

/-- A JSON value. -/
inductive Value
  | null
  | bool (value : Bool)
  | number (spelling : String)
  | string (value : Option String)
  | array (items : List Value)
  | object (members : List (Option String × Value))
  deriving Repr, Inhabited

mutual

/-- The value that says what an outline says. -/
def Value.ofOutline : Outline → Value
  | .flag b => .bool b
  | .text s => .string (some s)
  | .items l => .array (Value.ofOutlines l)
  | .fields l => .object (Value.ofFields l)

/-- The values of a list of outlines. -/
def Value.ofOutlines : List Outline → List Value
  | [] => []
  | o :: l => Value.ofOutline o :: Value.ofOutlines l

/-- The members of a list of fields. -/
def Value.ofFields : List (String × Outline) → List (Option String × Value)
  | [] => []
  | (k, o) :: l => (some k, Value.ofOutline o) :: Value.ofFields l

end

end GameFixes.Json
