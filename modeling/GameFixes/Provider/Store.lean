import GameFixes.Provider.Index
import GameFixes.Provider.Record

/-!
# The provider store

The store keeps one library game for each name and one provider game for each provider and name
there, over any number of imports. Every attempt to store a game takes the next number of its kind:
a new game keeps it, a known one keeps the number that it has. Links are never removed.
-/

namespace GameFixes.Provider

/-- The state of a store. Its games stand in the order in which they came. -/
structure Store where
  libraryGames : List LibraryGame := []
  providerGames : List ProviderGame := []
  links : List (Int × Int) := []
  /-- The last number given to an attempt to store a library game. -/
  libraryCounter : Nat := 0
  /-- The last number given to an attempt to store a provider game. -/
  providerCounter : Nat := 0
  deriving DecidableEq, Repr

/-- How many games and links an import stored. -/
structure ImportReport where
  libraryGames : Nat := 0
  providerGames : Nat := 0
  newAssociations : Nat := 0
  deriving DecidableEq, Repr

/-- How many games and links a store holds. -/
structure Stats where
  libraryGames : Nat
  providerGames : Nat
  associations : Nat
  deriving DecidableEq, Repr

namespace Store

/-- Stores a library game; the result has its number. -/
def putLibraryGame (s : Store) (name slug : String) : Store × Int :=
  let next := s.libraryCounter + 1
  match s.libraryGames.find? (·.slug = slug) with
  | some game =>
    let games := s.libraryGames.map fun g => if g.slug = slug then { g with name := name } else g
    ({ s with libraryGames := games, libraryCounter := next }, game.id)
  | none =>
    let games := s.libraryGames ++ [⟨next, name, slug⟩]
    ({ s with libraryGames := games, libraryCounter := next }, next)

/-- Stores a provider game; the result has its number. -/
def putProviderGame (s : Store) (provider slug name : String) : Store × Int :=
  let next := s.providerCounter + 1
  match s.providerGames.find? fun g => g.provider = provider && g.slug = slug with
  | some game =>
    let games := s.providerGames.map fun g =>
      if g.provider = provider && g.slug = slug then { g with name := name } else g
    ({ s with providerGames := games, providerCounter := next }, game.id)
  | none =>
    ({ s with
        providerGames := s.providerGames ++ [⟨next, provider, slug, name⟩]
        providerCounter := next }, next)

/-- Links two games; the result says whether they were not linked before. -/
def link (s : Store) (libraryId providerId : Int) : Store × Bool :=
  if s.links.contains (libraryId, providerId) then (s, false)
  else ({ s with links := s.links ++ [(libraryId, providerId)] }, true)

/-- Stores a provider record of the library game with this name and number. -/
def importProvider (gameName : String) (gameId : Int) (state : Store × ImportReport)
    (r : ProviderRecord) : Store × ImportReport :=
  let (s, report) := state
  let (s, providerId) := s.putProviderGame r.provider r.slug (r.name.getD gameName)
  let (s, isNew) := s.link gameId providerId
  (s, { report with
    providerGames := report.providerGames + 1
    newAssociations := report.newAssociations + isNew.toNat })

/-- Stores a library record with its provider records. -/
def importGame (state : Store × ImportReport) (r : LibraryRecord) : Store × ImportReport :=
  let (s, report) := state
  let (s, gameId) := s.putLibraryGame r.name r.slug
  r.providers.foldl (importProvider r.name gameId)
    (s, { report with libraryGames := report.libraryGames + 1 })

/-- Stores the records of a set, one after another. -/
def importRecords (s : Store) (records : RecordSet) : Store × ImportReport :=
  records.foldl importGame (s, {})

/-- The numbers of games and links. -/
def stats (s : Store) : Stats := ⟨s.libraryGames.length, s.providerGames.length, s.links.length⟩

/-- The game that a provider has under a name. -/
def find? (s : Store) (provider slug : String) : Option ProviderGame :=
  s.providerGames.find? fun g => g.provider = provider && g.slug = slug

/-- The library games that links lead to from a provider game, by ascending number. -/
def libraryGamesOf (s : Store) (g : ProviderGame) : List LibraryGame :=
  ((s.links.filter (·.2 = g.id)).filterMap fun l =>
    s.libraryGames.find? (·.id = l.1)).mergeSort fun a b => a.id ≤ b.id

/-- The provider games that links lead to from a library game, by ascending number. -/
def providerGamesOf (s : Store) (game : LibraryGame) : List ProviderGame :=
  ((s.links.filter (·.1 = game.id)).filterMap fun l =>
    s.providerGames.find? (·.id = l.2)).mergeSort fun a b => a.id ≤ b.id

/-- The index over a store, whose lookups never fail. -/
def index (s : Store) : Index where
  findProviderGame provider slug := .ok (s.find? provider slug)
  libraryGamesFor g := .ok (s.libraryGamesOf g)
  providerGamesFor game := .ok (s.providerGamesOf game)

/-- The games and links of a store as a listing. -/
def listing (s : Store) : Listing := ⟨s.providerGames, s.libraryGames, s.links⟩

end Store

end GameFixes.Provider
