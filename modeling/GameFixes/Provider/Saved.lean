import GameFixes.Json.Reader
import GameFixes.Json.Record
import GameFixes.Json.Writer
import GameFixes.Provider.Store
import GameFixes.Text.Utf8

/-!
# Saved provider stores

A provider store as the content of a sealed file, a JSON text of everything that the store holds. A
sealed file without content is a new store.
-/

namespace GameFixes.Provider.Store

/-! ### Writing -/

/-- A number as an outline. -/
def numberOutline (n : Int) : Outline := .text (toString n)

/-- A library game as an outline. -/
def libraryGameOutline (g : LibraryGame) : Outline :=
  .items [numberOutline g.id, .text g.name, .text g.slug]

/-- A provider game as an outline. -/
def providerGameOutline (g : ProviderGame) : Outline :=
  .items [numberOutline g.id, .text g.provider, .text g.slug, .text g.name]

/-- A pair of numbers as an outline. -/
def pairOutline (p : Int × Int) : Outline := .items [numberOutline p.1, numberOutline p.2]

/-- Everything that a store holds, as an outline. -/
def outline (s : Store) : Outline :=
  .fields [("library_games", .items (s.libraryGames.map libraryGameOutline)),
    ("provider_games", .items (s.providerGames.map providerGameOutline)),
    ("links", .items (s.links.map pairOutline)),
    ("counters", pairOutline (s.libraryCounter, s.providerCounter))]

/-- A store as the content of a file. -/
def toBytes (s : Store) : List UInt8 := bytesOf (Json.render s.outline)

/-! ### Reading -/

/-- The number that a JSON value says. -/
def numberOf? (v : Json.Value) : Option Int := v.text?.bind String.toInt?

/-- The library game that a JSON value says. -/
def libraryGameOf? : Json.Value → Option LibraryGame
  | .array [id, name, slug] => do return ⟨← numberOf? id, ← name.text?, ← slug.text?⟩
  | _ => none

/-- The provider game that a JSON value says. -/
def providerGameOf? : Json.Value → Option ProviderGame
  | .array [id, provider, slug, name] => do
    return ⟨← numberOf? id, ← provider.text?, ← slug.text?, ← name.text?⟩
  | _ => none

/-- The pair of numbers that a JSON value says. -/
def pairOf? : Json.Value → Option (Int × Int)
  | .array [a, b] => do return (← numberOf? a, ← numberOf? b)
  | _ => none

/-- The store that a JSON value says. -/
def ofJson? (v : Json.Value) : Option Store := do
  match ← v.record? [["library_games"], ["provider_games"], ["links"], ["counters"]] with
  | [libraryGames, providerGames, links, counters] =>
    let (libraryCounter, providerCounter) ← Json.required pairOf? counters
    return {
      libraryGames := ← Json.required (Json.Value.items? libraryGameOf?) libraryGames
      providerGames := ← Json.required (Json.Value.items? providerGameOf?) providerGames
      links := ← Json.required (Json.Value.items? pairOf?) links
      libraryCounter := libraryCounter.toNat
      providerCounter := providerCounter.toNat }
  | _ => none

/-- The store that the content of a sealed file says. -/
def ofBytes? (bytes : List UInt8) : Option Store :=
  if bytes.isEmpty then some {} else ((stringOf? bytes).bind Json.read?).bind ofJson?

end GameFixes.Provider.Store
