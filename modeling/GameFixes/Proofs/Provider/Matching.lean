import GameFixes.Proofs.Provider.Listing

/-!
# Matching the library against a store

The library games of an identifier are reached through its record and through links, and the records
of a library game by links back, so each game that an identifier leads to has the identifier among
its records.

* `Store.linkedGames`, `Store.matchesOf`: the library games of an identifier, and the matches these
  are;
* `Sound.libraryGamesOfId`: the lookups lead to the library games that are linked;
* `Sound.addId_matchReport`: one more identifier adds its matches, or itself;
* `Sound.matchLibraryGames`: so do all identifiers, one after another;
* `matchLibraryGames_imports`: what the library is matched to after any imports.
-/

namespace GameFixes

open Provider

namespace Provider.Store

variable (s : Store) (provider id : String)

/-- The library games that are linked to the record of a provider under an identifier. -/
def linkedGames : List LibraryGame :=
  s.libraryGames.filter fun game => s.providerGames.any fun g =>
    g.provider = provider && g.slug = id && s.links.contains (game.id, g.id)

/-- The match that a library game is, with all records that it is linked to. -/
def matchOf (game : LibraryGame) : LibraryMatch where
  name := game.name
  providers :=
    (s.providerGames.filter fun g => s.links.contains (game.id, g.id)).map ProviderGame.pair

/-- The matches of an identifier, one for each library game. -/
def matchesOf : List LibraryMatch := (s.linkedGames provider id).map s.matchOf

variable {s provider id}

theorem mem_linkedGames_iff {game : LibraryGame} : game ∈ s.linkedGames provider id ↔
    game ∈ s.libraryGames ∧ ∃ g ∈ s.providerGames,
      (g.provider = provider ∧ g.slug = id) ∧ (game.id, g.id) ∈ s.links := by
  unfold linkedGames
  rw [List.mem_filter, List.any_eq_true]
  simp only [Bool.and_eq_true, decide_eq_true_iff, List.contains_iff_mem]

/-- No library game is linked to an identifier if it has no record, or one without links. -/
theorem linkedGames_eq_nil_iff : s.linkedGames provider id = [] ↔
    ∀ g ∈ s.providerGames, g.provider = provider → g.slug = id →
      ∀ game ∈ s.libraryGames, (game.id, g.id) ∉ s.links := by
  rw [List.eq_nil_iff_forall_not_mem]
  simp only [mem_linkedGames_iff, not_and, not_exists]
  exact ⟨fun h g hg hp hs game hgame => h game hgame g hg ⟨hp, hs⟩,
    fun h game hgame g hg hid => h g hg hid.1 hid.2 game hgame⟩

theorem matchesOf_eq_nil_iff : s.matchesOf provider id = [] ↔ s.linkedGames provider id = [] :=
  List.map_eq_nil_iff

/-- A match of an identifier lists the identifier. -/
theorem pair_mem_providers {m : LibraryMatch} (h : m ∈ s.matchesOf provider id) :
    provider ++ ":" ++ id ∈ m.providers := by
  obtain ⟨game, hgame, rfl⟩ := List.mem_map.1 h
  obtain ⟨-, g, hg, ⟨rfl, rfl⟩, hlink⟩ := mem_linkedGames_iff.1 hgame
  exact List.mem_map.2 ⟨g, List.mem_filter.2 ⟨hg, List.contains_iff_mem.2 hlink⟩, rfl⟩

/-! ### Lookups -/

/-- A store with one record for each provider and slug, in which games stand in their order. -/
structure Sound (s : Store) : Prop extends s.Ordered where
  pairs : (s.providerGames.map fun g => (g.provider, g.slug)).Nodup

theorem sound_imports (sets : List RecordSet) : (Store.imports sets).Sound where
  toOrdered := ordered_imports sets
  pairs := (imports_eq sets ▸ reflects_history _ : (Store.imports sets).Reflects _).providerPairs

/-- The record of an identifier is the only one, so the library games linked to it are those of the
identifier. -/
theorem Sound.linkedGames_of_find? (h : s.Sound) {g : ProviderGame}
    (hg : s.find? provider id = some g) : s.linkedGames provider id = s.libraryGamesOf g := by
  have hmem : g ∈ s.providerGames := List.mem_of_find?_eq_some hg
  obtain ⟨hp, hs⟩ : g.provider = provider ∧ g.slug = id := by simpa using List.find?_some hg
  rw [h.libraryGamesOf]
  refine List.filter_congr fun game _ => ?_
  rw [Bool.eq_iff_iff, List.any_eq_true, decide_eq_true_iff]
  simp only [Bool.and_eq_true, decide_eq_true_iff, List.contains_iff_mem]
  constructor
  · rintro ⟨g', hmem', ⟨hp', hs'⟩, hlink⟩
    obtain rfl := List.inj_on_of_nodup_map h.pairs hmem' hmem (by rw [hp, hs, hp', hs'])
    exact hlink
  · intro hlink
    exact ⟨g, hmem, ⟨hp, hs⟩, hlink⟩

theorem linkedGames_of_find?_eq_none (h : s.find? provider id = none) :
    s.linkedGames provider id = [] := by
  refine linkedGames_eq_nil_iff.2 fun g hg hp hs => ?_
  have hnone := List.find?_eq_none.1 h g hg
  simp [hp, hs] at hnone

/-- The lookups for an identifier lead to the library games that are linked to it. -/
theorem Sound.libraryGamesOfId (h : s.Sound) (provider id : String) :
    libraryGamesOfId s.index provider id = .ok (s.linkedGames provider id) := by
  have hfind : s.index.findProviderGame provider id = .ok (s.find? provider id) := rfl
  unfold GameFixes.libraryGamesOfId
  cases hg : s.find? provider id with
  | none =>
    rw [hfind, hg, linkedGames_of_find?_eq_none hg]
    rfl
  | some g =>
    rw [hfind, hg, h.linkedGames_of_find? hg]
    rfl

/-- The match that is made of a library game is that of its links. -/
theorem Ordered.matchOf_index (h : s.Ordered) (game : LibraryGame) :
    GameFixes.matchOf s.index game = .ok (s.matchOf game) := by
  show Except.ok (⟨game.name, (s.providerGamesOf game).map ProviderGame.pair⟩ : LibraryMatch) = _
  have hrecords : s.listing.providerGamesOf game =
      s.providerGames.filter fun g => s.links.contains (game.id, g.id) :=
    List.filter_congr fun g _ => (List.contains_eq_mem _ _).symm
  rw [h.providerGamesOf, hrecords]
  rfl

theorem Ordered.mapM_matchOf (h : s.Ordered) (games : List LibraryGame) :
    games.mapM (GameFixes.matchOf s.index) = .ok (games.map s.matchOf) := by
  rw [funext h.matchOf_index]
  exact List.mapM_pure

/-! ### Identifiers -/

/-- What is reported for some identifiers: their matches, and those without any. -/
def matchReport (s : Store) (provider : String) (ids : List String) : MatchReport where
  matched := ids.flatMap (s.matchesOf provider)
  unmatched := TextSet.ofList (ids.filter (s.matchesOf provider · = []))

/-- One more identifier adds its matches, or itself if it has none. -/
theorem Sound.addId_matchReport (h : s.Sound) (provider : String) (ids : List String)
    (id : String) : (s.matchReport provider ids).addId s.index provider id =
      .ok (s.matchReport provider (ids ++ [id])) := by
  unfold MatchReport.addId matchReport
  rw [h.libraryGamesOfId, List.flatMap_append, List.flatMap_singleton, List.filter_append]
  cases hgames : s.linkedGames provider id with
  | nil =>
    have hnone : s.matchesOf provider id = [] := matchesOf_eq_nil_iff.2 hgames
    rw [List.filter_singleton, hnone, List.append_nil, decide_eq_true rfl, Bool.cond_true,
      TextSet.ofList_concat]
    rfl
  | cons game games =>
    have hsome : s.matchesOf provider id ≠ [] := by simp [matchesOf_eq_nil_iff, hgames]
    rw [List.filter_singleton, decide_eq_false hsome, Bool.cond_false, List.append_nil, matchesOf,
      hgames]
    simp only [bind, Except.bind, h.toOrdered.mapM_matchOf]
    rfl

/-- So do any identifiers, one after another. -/
theorem Sound.matchLibraryGames (h : s.Sound) (provider : String) (ids : List String) :
    matchLibraryGames s.index provider ids = .ok (s.matchReport provider ids) := by
  unfold GameFixes.matchLibraryGames
  induction ids using List.reverseRecOn with
  | nil => rfl
  | append_singleton ids id ih =>
    rw [List.foldlM_append, ih]
    simp only [bind, Except.bind, List.foldlM_cons, h.addId_matchReport]
    rfl

/-- Identifiers without matches add none. -/
theorem flatMap_matchesOf_filter (ids : List String) :
    (ids.filter (s.matchesOf provider · ≠ [])).flatMap (s.matchesOf provider) =
      ids.flatMap (s.matchesOf provider) := by
  induction ids with
  | nil => rfl
  | cons id ids ih =>
    rw [List.filter_cons, List.flatMap_cons, ← ih]
    by_cases hid : s.matchesOf provider id = []
    · rw [if_neg (by simpa using hid), hid, List.nil_append]
    · rw [if_pos (by simpa using hid), List.flatMap_cons]

theorem mem_unmatched {ids : List String} : id ∈ (s.matchReport provider ids).unmatched.toList ↔
    id ∈ ids ∧ s.matchesOf provider id = [] := by
  rw [matchReport, TextSet.mem_ofList, List.mem_filter, decide_eq_true_iff]

end Provider.Store

/-- **Every identifier is matched or reported.** After any imports the library is matched without a
failure. The identifiers that are reported are those without a record, or with one that no library
game is linked to; each of the others adds one match for each library game that is linked to its
record, by ascending number, and lists the identifier itself in each of them. -/
theorem matchLibraryGames_imports (sets : List RecordSet) (libraryProvider : String)
    (ids : List String) :
    let s := Store.imports sets
    ∃ r, matchLibraryGames s.index libraryProvider ids = .ok r ∧
      (∀ id, id ∈ r.unmatched.toList ↔ id ∈ ids ∧
        ∀ g ∈ s.providerGames, g.provider = libraryProvider → g.slug = id →
          ∀ game ∈ s.libraryGames, (game.id, g.id) ∉ s.links) ∧
      r.matched =
        (ids.filter (· ∉ r.unmatched.toList)).flatMap (s.matchesOf libraryProvider) ∧
      ∀ id ∈ ids,
        (s.linkedGames libraryProvider id).Pairwise (fun a b => a.id < b.id) ∧
        (id ∉ r.unmatched.toList ↔ s.matchesOf libraryProvider id ≠ []) ∧
        ∀ m ∈ s.matchesOf libraryProvider id, libraryProvider ++ ":" ++ id ∈ m.providers := by
  intro s
  have hs : s.Sound := Store.sound_imports sets
  refine ⟨_, hs.matchLibraryGames libraryProvider ids, fun id => ?_, ?_, fun id hid => ?_⟩
  · rw [Store.mem_unmatched, Store.matchesOf_eq_nil_iff, Store.linkedGames_eq_nil_iff]
  · refine (Store.flatMap_matchesOf_filter ids).symm.trans ?_
    congr 1
    refine List.filter_congr fun id hid => decide_eq_decide.2 ?_
    rw [Store.mem_unmatched, and_iff_right hid]
  · refine ⟨hs.library.filter _, ?_, fun m => Store.pair_mem_providers⟩
    rw [Store.mem_unmatched, and_iff_right hid]

end GameFixes
