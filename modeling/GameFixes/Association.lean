import GameFixes.FixId
import GameFixes.Log
import GameFixes.Provider.Index

/-!
# Associations

From the record of a game at the library's own provider to its records elsewhere: through the first
library game that the record belongs to, leaving out providers that are of no interest.
-/

namespace GameFixes

open Provider

/-- The provider of the library when settings name none. -/
def defaultLibraryProvider : String := "steam"

/-- What identifiers look like, and which provider is the library's own. -/
structure Options where
  idPrefix : String := defaultIdPrefix
  libraryProvider : String := defaultLibraryProvider
  deriving DecidableEq, Repr

/-- Providers that are never reported, besides the library's own. -/
def ignoredProviders : List String := ["igdb"]

/-- Whether games of a provider are reported. -/
def Options.reports (o : Options) (provider : String) : Bool :=
  provider ≠ o.libraryProvider && !ignoredProviders.contains provider

/-- The events that report how many library games a record belongs to, unless it is one. -/
def libraryGameEvents (g : ProviderGame) : List LibraryGame → List Event
  | [] => [⟨.warn, "no associated library game", [("provider_game", .text g.display)]⟩]
  | [_] => []
  | games =>
    ⟨.warn, "more than one library game",
      [("provider_game", .text g.display), ("count", .number games.length)]⟩ ::
      games.map fun game => ⟨.warn, "associated library game", [("game", .text game.display)]⟩

/-- The event that reports an associated record. -/
def associationEvent (context : String) (record : ProviderGame) : Event :=
  ⟨.info, "associated provider game",
    [("context", .text context), ("record", .text record.display)]⟩

/-- The records associated with a game of the library's provider, and the events of finding them. -/
def associations {m : Type → Type} [Monad m] (index : Lookups m) (options : Options)
    (context : String) (g : ProviderGame) : m (List ProviderGame × List Event) := do
  let games ← index.libraryGamesFor g
  match games with
  | [] => return ([], libraryGameEvents g games)
  | first :: _ =>
    let records := (← index.providerGamesFor first).filter fun r => options.reports r.provider
    return (records, libraryGameEvents g games ++ records.map (associationEvent context))

end GameFixes
