import GameFixes.Collection.TextMap
import GameFixes.Provider.Index

/-!
# Matching the library

For the identifiers of the library's provider, the library games they belong to, and every record
of those games.
-/

namespace GameFixes

open Provider

/-- A library game and its records at providers. -/
structure LibraryMatch where
  name : String
  providers : List String
  deriving DecidableEq, Repr

/-- The records of a match on one line. -/
def LibraryMatch.providerList (m : LibraryMatch) : String := ", ".intercalate m.providers

/-- The matches for some identifiers, and the identifiers without any. -/
structure MatchReport where
  matched : List LibraryMatch := []
  unmatched : TextSet := ∅
  deriving DecidableEq

/-- The match that a library game is. -/
def matchOf (index : Index) (game : LibraryGame) : Except Failure LibraryMatch := do
  return ⟨game.name, (← index.providerGamesFor game).map ProviderGame.pair⟩

/-- The library games that an identifier belongs to. -/
def libraryGamesOfId (index : Index) (libraryProvider id : String) :
    Except Failure (List LibraryGame) := do
  match ← index.findProviderGame libraryProvider id with
  | some game => index.libraryGamesFor game
  | none => return []

/-- Adds the matches of one more identifier to a report. -/
def MatchReport.addId (index : Index) (libraryProvider : String) (r : MatchReport) (id : String) :
    Except Failure MatchReport := do
  match ← libraryGamesOfId index libraryProvider id with
  | [] => return { r with unmatched := TextSet.add r.unmatched id }
  | games => return { r with matched := r.matched ++ (← games.mapM (matchOf index)) }

/-- The matches of a list of identifiers, in its order. -/
def matchLibraryGames (index : Index) (libraryProvider : String) (ids : List String) :
    Except Failure MatchReport :=
  ids.foldlM (MatchReport.addId index libraryProvider) {}

end GameFixes
