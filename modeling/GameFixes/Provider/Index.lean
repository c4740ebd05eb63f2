import GameFixes.Failure

/-!
# Provider indexes

Games of the library, games at providers, and the lookups that connect them. Whatever answers the
three lookups, or fails, is an index; a list of games and links is the plainest one. What is made of
lookups does not depend on what they do besides answering, so that they may also be noted.
-/

namespace GameFixes.Provider

/-- A game at a provider. -/
structure ProviderGame where
  id : Int
  provider : String
  slug : String
  name : String
  deriving DecidableEq, Repr

/-- A game of the library. -/
structure LibraryGame where
  id : Int
  name : String
  slug : String
  deriving DecidableEq, Repr

/-- A provider game by its provider and the name it has there. -/
def ProviderGame.pair (g : ProviderGame) : String := g.provider ++ ":" ++ g.slug

/-- A provider game for people. -/
def ProviderGame.display (g : ProviderGame) : String := g.name ++ " (" ++ g.pair ++ ")"

/-- A library game for people. -/
def LibraryGame.display (g : LibraryGame) : String := g.name ++ " (" ++ g.slug ++ ")"

/-- Three lookups, which answer in `m`. -/
structure Lookups (m : Type → Type) where
  /-- The game that a provider has under a name. -/
  findProviderGame : (provider slug : String) → m (Option ProviderGame)
  /-- The library games associated with a provider game. -/
  libraryGamesFor : ProviderGame → m (List LibraryGame)
  /-- The provider games associated with a library game. -/
  providerGamesFor : LibraryGame → m (List ProviderGame)

/-- Three lookups, each of which may fail. -/
abbrev Index := Lookups (Except Failure)

/-- Games and links between them: pairs of a library game's and a provider game's number. -/
structure Listing where
  providerGames : List ProviderGame := []
  libraryGames : List LibraryGame := []
  links : List (Int × Int) := []
  deriving DecidableEq, Repr

/-- The first game that a provider has under a name. -/
def Listing.find? (l : Listing) (provider slug : String) : Option ProviderGame :=
  l.providerGames.find? fun g => g.provider = provider && g.slug = slug

/-- The library games linked to a provider game, in the order of the list. -/
def Listing.libraryGamesOf (l : Listing) (g : ProviderGame) : List LibraryGame :=
  l.libraryGames.filter fun game => (game.id, g.id) ∈ l.links

/-- The provider games linked to a library game, in the order of the list. -/
def Listing.providerGamesOf (l : Listing) (game : LibraryGame) : List ProviderGame :=
  l.providerGames.filter fun g => (game.id, g.id) ∈ l.links

/-- A listing as an index, whose lookups never fail. -/
def Listing.index (l : Listing) : Index where
  findProviderGame provider slug := .ok (l.find? provider slug)
  libraryGamesFor g := .ok (l.libraryGamesOf g)
  providerGamesFor game := .ok (l.providerGamesOf game)

end GameFixes.Provider
