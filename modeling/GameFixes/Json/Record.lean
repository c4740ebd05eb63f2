import GameFixes.Collection.TextMap
import GameFixes.Json.Value

/-!
# Decoding JSON

Records are decoded from an object, in which unknown members are passed over and a known one stands
at most once, or from an array of their fields in order.
-/

namespace GameFixes.Json

/-- The text of a string. -/
def Value.text? : Value → Option String
  | .string s => s
  | _ => none

/-- The flag of a truth value. -/
def Value.flag? : Value → Option Bool
  | .bool b => some b
  | _ => none

/-- The items of an array, each decoded. -/
def Value.items? {α : Type} (decode : Value → Option α) : Value → Option (List α)
  | .array l => l.mapM decode
  | _ => none

/-- The keys of an object, unless one of them stands for no text. -/
def keys? (members : List (Option String × Value)) : Option (List (String × Value)) :=
  members.mapM fun (k, v) => k.map (·, v)

/-- The texts of an object, by their keys; of several with one key the last counts. -/
def Value.texts? : Value → Option (TextMap String)
  | .object members => do
    let l ← (← keys? members).mapM fun (k, v) => v.text?.map (k, ·)
    return .ofList l
  | _ => none

/-- The value of the one member under any of some names; several are refused. -/
def member? (names : List String) (members : List (String × Value)) : Option (Option Value) :=
  match members.filter (·.1 ∈ names) with
  | [] => some none
  | [(_, v)] => some (some v)
  | _ => none

/-- The values of a record's fields, of which each has one name or several. -/
def Value.record? (fields : List (List String)) : Value → Option (List (Option Value))
  | .object members => do
    let members ← keys? members
    fields.mapM (member? · members)
  | .array l =>
    if l.length ≤ fields.length then
      some (l.map some ++ List.replicate (fields.length - l.length) none)
    else none
  | _ => none

/-- A field that may be missing or null. -/
def optional {α : Type} (decode : Value → Option α) : Option Value → Option (Option α)
  | none => some none
  | some .null => some none
  | some v => (decode v).map some

/-- A field that may be missing but not null. -/
def defaulted {α : Type} (default : α) (decode : Value → Option α) : Option Value → Option α
  | none => some default
  | some v => decode v

/-- A field that must be present. -/
def required {α : Type} (decode : Value → Option α) : Option Value → Option α
  | none => none
  | some v => decode v

end GameFixes.Json
