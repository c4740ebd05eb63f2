import GameFixes.Json.Reader
import GameFixes.Json.Record

/-!
# Provider records

What is known about games across stores: each game of the library with its records at providers, as
a record file lists them.
-/

namespace GameFixes.Provider

/-- A game at a provider; without a name of its own it goes by the name of the library game. -/
structure ProviderRecord where
  provider : String
  slug : String
  name : Option String := none
  deriving DecidableEq, Repr

/-- A game of the library and its records at providers. -/
structure LibraryRecord where
  name : String
  slug : String
  providers : List ProviderRecord := []
  deriving DecidableEq, Repr

/-- The games of a record file. -/
abbrev RecordSet := List LibraryRecord

open Json in
/-- The provider record that a JSON value says. -/
def ProviderRecord.ofJson? (v : Value) : Option ProviderRecord := do
  match ← v.record? [["provider"], ["slug"], ["name"]] with
  | [provider, slug, name] =>
    return ⟨← required Value.text? provider, ← required Value.text? slug,
      ← optional Value.text? name⟩
  | _ => none

open Json in
/-- The library record that a JSON value says. -/
def LibraryRecord.ofJson? (v : Value) : Option LibraryRecord := do
  match ← v.record? [["name"], ["slug"], ["providers"]] with
  | [name, slug, providers] =>
    return ⟨← required Value.text? name, ← required Value.text? slug,
      ← defaulted [] (Value.items? ProviderRecord.ofJson?) providers⟩
  | _ => none

open Json in
/-- The record set that a JSON value says. -/
def RecordSet.ofJson? (v : Value) : Option RecordSet := do
  match ← v.record? [["games"]] with
  | [games] => defaulted [] (Value.items? LibraryRecord.ofJson?) games
  | _ => none

/-- The record set of a JSON text. -/
def RecordSet.parse? (content : String) : Option RecordSet :=
  (Json.read? content).bind RecordSet.ofJson?

end GameFixes.Provider
