import GameFixes.Proofs.Collection
import GameFixes.Proofs.Provider.Table
import GameFixes.Provider.Store

/-!
# Stores and their logs

A store looks games up by following links to numbers, numbers to games, and sorting these. Where the
games of each kind stand by ascending number and no link stands twice, that is the same as going
through the games and keeping those with a link:

* `Store.Ordered`: such a store;
* `Ordered.libraryGamesOf` and `Ordered.providerGamesOf`: it answers like the list of what it holds;
* `Ordered.index_listing`: so the two are one index.

What a store has been told is its logs, and these leave such a store behind. Every operation on the
store is an entry in the logs, and the lookups are said by them.

* `Logs`: the names given to games and the associations between these;
* `Logs.store`: the store of logs;
* `store_putLibraryGame`, `store_putProviderGame` and `store_link`: one operation of the store;
* `store_find?`, `store_libraryGamesOf` and `store_providerGamesOf`: what is found there.
-/

namespace GameFixes.Provider

/-! ### Lookups in an ordered store -/

namespace Store

variable {s : Store}

/-- The games of each kind stand by ascending number, and no link stands twice. -/
structure Ordered (s : Store) : Prop where
  library : s.libraryGames.Pairwise fun a b => a.id < b.id
  provider : s.providerGames.Pairwise fun a b => a.id < b.id
  links : s.links.Nodup

theorem Ordered.libraryIds_nodup (h : s.Ordered) : (s.libraryGames.map (·.id)).Nodup :=
  List.pairwise_map.2 (h.library.imp ne_of_lt)

theorem Ordered.providerIds_nodup (h : s.Ordered) : (s.providerGames.map (·.id)).Nodup :=
  List.pairwise_map.2 (h.provider.imp ne_of_lt)

theorem Ordered.libraryGamesOf (h : s.Ordered) (g : ProviderGame) :
    s.libraryGamesOf g = s.listing.libraryGamesOf g := by
  have hjoin := mergeSort_filterMap_find? h.library
    (nodup_map_filter h.links (fun _ _ => Prod.ext) g.id)
  rw [List.filterMap_map] at hjoin
  refine hjoin.trans (List.filter_congr fun game _ => decide_eq_decide.2 ?_)
  simp [listing]

theorem Ordered.providerGamesOf (h : s.Ordered) (game : LibraryGame) :
    s.providerGamesOf game = s.listing.providerGamesOf game := by
  have hjoin := mergeSort_filterMap_find? h.provider
    (nodup_map_filter h.links (fun _ _ h2 h1 => Prod.ext h1 h2) game.id)
  rw [List.filterMap_map] at hjoin
  refine hjoin.trans (List.filter_congr fun g _ => decide_eq_decide.2 ?_)
  simp [listing]

/-- The list of what a store holds answers every lookup as the store does. -/
theorem Ordered.index_listing (h : s.Ordered) : s.listing.index = s.index := by
  have hlibrary : s.listing.libraryGamesOf = s.libraryGamesOf :=
    funext fun g => (h.libraryGamesOf g).symm
  have hprovider : s.listing.providerGamesOf = s.providerGamesOf :=
    funext fun game => (h.providerGamesOf game).symm
  unfold Listing.index index
  rw [hlibrary, hprovider]
  rfl

end Store

/-! ### Logs -/

/-- What a store has been told: the names given to library games and to provider games, attempt by
attempt, and which of them were associated, in the order in which they were first. -/
@[ext] structure Logs where
  games : List (String × String) := []
  records : List ((String × String) × String) := []
  associations : List (String × String × String) := []
  listed : ∀ a ∈ associations, a.1 ∈ keysOf games ∧ a.2 ∈ keysOf records := by simp
  nodup : associations.Nodup := by simp

/-- A row for a library game. -/
def libraryRow (id : Int) (slug name : String) : LibraryGame := ⟨id, name, slug⟩

/-- A row for a provider game. -/
def providerRow (id : Int) (pair : String × String) (name : String) : ProviderGame :=
  ⟨id, pair.1, pair.2, name⟩

namespace Logs

/-- The library game with a slug. -/
def game (l : Logs) : String → LibraryGame := row libraryRow l.games

/-- The game that a provider has under a name. -/
def record (l : Logs) : String × String → ProviderGame := row providerRow l.records

/-- The link between two associated games. -/
def linkOf (l : Logs) (a : String × String × String) : Int × Int :=
  (numberOf l.games a.1, numberOf l.records a.2)

/-- The store of logs. -/
def store (l : Logs) : Store where
  libraryGames := table libraryRow l.games
  providerGames := table providerRow l.records
  links := l.associations.map l.linkOf
  libraryCounter := l.games.length
  providerCounter := l.records.length

/-! ### Entries -/

/-- Names a library game. -/
def nameGame (l : Logs) (slug name : String) : Logs where
  games := l.games ++ [(slug, name)]
  records := l.records
  associations := l.associations
  listed a ha := ⟨by simp [(l.listed a ha).1], (l.listed a ha).2⟩
  nodup := l.nodup

/-- Names a provider game. -/
def nameRecord (l : Logs) (pair : String × String) (name : String) : Logs where
  games := l.games
  records := l.records ++ [(pair, name)]
  associations := l.associations
  listed a ha := ⟨(l.listed a ha).1, by simp [(l.listed a ha).2]⟩
  nodup := l.nodup

/-- Associates two games that have names, unless they are associated already. -/
def associate (l : Logs) (a : String × String × String)
    (h : a.1 ∈ keysOf l.games ∧ a.2 ∈ keysOf l.records) : Logs where
  games := l.games
  records := l.records
  associations := if a ∈ l.associations then l.associations else l.associations ++ [a]
  listed b hb := by
    split_ifs at hb with ha
    · exact l.listed b hb
    · rcases List.mem_append.1 hb with hb | hb
      · exact l.listed b hb
      · exact List.mem_singleton.1 hb ▸ h
  nodup := by
    split_ifs with ha
    · exact l.nodup
    · exact List.nodup_append.2 ⟨l.nodup, List.nodup_singleton a, fun b hb c hc hbc =>
        ha (List.mem_singleton.1 hc ▸ hbc ▸ hb)⟩

/-- Names a provider game and associates it with a library game. -/
def addRecord (l : Logs) (slug : String) (h : slug ∈ keysOf l.games) (pair : String × String)
    (name : String) : Logs :=
  (l.nameRecord pair name).associate (slug, pair) ⟨h, by simp [nameRecord]⟩

variable (l : Logs)

/-! ### Rows -/

theorem map_slug_libraryGames : l.store.libraryGames.map (·.slug) = distinct (keysOf l.games) :=
  map_table fun _ _ _ => rfl

theorem map_pair_providerGames :
    l.store.providerGames.map (fun g => (g.provider, g.slug)) = distinct (keysOf l.records) :=
  map_table fun _ _ _ => rfl

/-! ### Links -/

theorem linkOf_inj {a b : String × String × String}
    (ha : a.1 ∈ keysOf l.games ∧ a.2 ∈ keysOf l.records) : l.linkOf a = l.linkOf b ↔ a = b := by
  rw [linkOf, linkOf, Prod.mk.injEq, numberOf_inj ha.1, numberOf_inj ha.2, ← Prod.ext_iff]

theorem linkOf_mem_iff {a : String × String × String} :
    l.linkOf a ∈ l.store.links ↔ a ∈ l.associations := by
  constructor
  · intro h
    obtain ⟨b, hb, heq⟩ := List.mem_map.1 h
    rwa [← (l.linkOf_inj (l.listed b hb)).1 heq]
  · exact List.mem_map_of_mem

/-- The rows stand by ascending number, and no link stands twice. -/
theorem ordered_store : l.store.Ordered where
  library := pairwise_table fun _ _ _ => rfl
  provider := pairwise_table fun _ _ _ => rfl
  links := l.nodup.map_on fun a ha _ _ h => (l.linkOf_inj (l.listed a ha)).1 h

/-- Links refer to games. -/
theorem mem_ids_of_mem_links {link : Int × Int} (h : link ∈ l.store.links) :
    link.1 ∈ l.store.libraryGames.map (·.id) ∧ link.2 ∈ l.store.providerGames.map (·.id) := by
  obtain ⟨a, ha, rfl⟩ := List.mem_map.1 h
  obtain ⟨hgame, hrecord⟩ := l.listed a ha
  exact ⟨List.mem_map.2 ⟨_, mem_table_iff.2 ⟨_, hgame, rfl⟩, rfl⟩,
    List.mem_map.2 ⟨_, mem_table_iff.2 ⟨_, hrecord, rfl⟩, rfl⟩⟩

/-! ### Operations -/

section Operations

variable (slug name : String) (pair : String × String)

/-- Naming a library game changes the library games only: links keep their numbers. -/
theorem nameGame_store : (l.nameGame slug name).store =
    { l.store with
      libraryGames := table libraryRow (l.games ++ [(slug, name)])
      libraryCounter := l.games.length + 1 } := by
  have hlinks : l.associations.map (l.nameGame slug name).linkOf = l.associations.map l.linkOf :=
    List.map_congr_left fun a ha => Prod.ext (numberOf_append_of_mem (l.listed a ha).1 _) rfl
  unfold store
  congr 1
  · exact List.length_append

/-- Naming a provider game changes the provider games only. -/
theorem nameRecord_store : (l.nameRecord pair name).store =
    { l.store with
      providerGames := table providerRow (l.records ++ [(pair, name)])
      providerCounter := l.records.length + 1 } := by
  have hlinks : l.associations.map (l.nameRecord pair name).linkOf = l.associations.map l.linkOf :=
    List.map_congr_left fun a ha => Prod.ext rfl (numberOf_append_of_mem (l.listed a ha).2 _)
  unfold store
  congr 1
  · exact List.length_append

/-- Associating two games changes the links only. -/
theorem associate_store {a : String × String × String}
    (h : a.1 ∈ keysOf l.games ∧ a.2 ∈ keysOf l.records) : (l.associate a h).store =
      { l.store with
        links := if a ∈ l.associations then l.store.links else l.store.links ++ [l.linkOf a] } := by
  unfold store
  congr 1
  show (if a ∈ l.associations then l.associations else l.associations ++ [a]).map l.linkOf = _
  split_ifs with ha
  · rfl
  · rw [List.map_append]
    rfl

/-- Storing a library game names it, and the result has its number. -/
theorem store_putLibraryGame : l.store.putLibraryGame name slug =
    ((l.nameGame slug name).store, numberOf (l.nameGame slug name).games slug) := by
  have hslug : ∀ n j w, decide ((libraryRow n j w).slug = slug) = true ↔ j = slug :=
    fun _ _ _ => decide_eq_true_iff
  rw [nameGame_store]
  by_cases h : slug ∈ keysOf l.games
  · have hfind : l.store.libraryGames.find? (·.slug = slug) = some (l.game slug) :=
      find?_table h hslug
    have hrename : l.store.libraryGames.map
        (fun g => if g.slug = slug then { g with name := name } else g) =
          table libraryRow (l.games ++ [(slug, name)]) :=
      table_concat_of_mem h fun _ j _ => by
        by_cases hj : slug = j
        · simp [libraryRow, hj]
        · simp [libraryRow, hj, Ne.symm hj]
    have hnumber : numberOf (l.nameGame slug name).games slug = (l.game slug).id :=
      numberOf_append_of_mem h _
    simp only [Store.putLibraryGame, hfind, hrename, hnumber]
    rfl
  · have hfind : l.store.libraryGames.find? (·.slug = slug) = none := find?_table_eq_none h hslug
    have hnumber : numberOf (l.nameGame slug name).games slug = l.games.length + 1 :=
      numberOf_concat_of_notMem h
    simp only [Store.putLibraryGame, hfind, hnumber, table_concat_of_notMem h]
    rfl

/-- The test by which the store knows a provider game. -/
theorem isPair_iff (provider slug : String) (n : Int) (q : String × String) (w : String) :
    (decide ((providerRow n q w).provider = provider) && decide ((providerRow n q w).slug = slug)) =
      true ↔ q = (provider, slug) := by
  rw [← Bool.decide_and, decide_eq_true_iff, Prod.ext_iff]
  rfl

/-- Storing a provider game names it, and the result has its number. -/
theorem store_putProviderGame (provider : String) : l.store.putProviderGame provider slug name =
    ((l.nameRecord (provider, slug) name).store,
      numberOf (l.nameRecord (provider, slug) name).records (provider, slug)) := by
  rw [nameRecord_store]
  by_cases h : (provider, slug) ∈ keysOf l.records
  · have hfind : l.store.providerGames.find? (fun g => g.provider = provider && g.slug = slug) =
        some (l.record (provider, slug)) := find?_table h (isPair_iff provider slug)
    have hrename : l.store.providerGames.map
        (fun g => if g.provider = provider && g.slug = slug then { g with name := name } else g) =
          table providerRow (l.records ++ [((provider, slug), name)]) :=
      table_concat_of_mem h fun n q w => by
        by_cases hq : q = (provider, slug)
        · rw [if_pos ((isPair_iff ..).2 hq), if_pos hq.symm]
          rfl
        · rw [if_neg (mt (isPair_iff ..).1 hq), if_neg (Ne.symm hq)]
    have hnumber : numberOf (l.nameRecord (provider, slug) name).records (provider, slug) =
        (l.record (provider, slug)).id := numberOf_append_of_mem h _
    simp only [Store.putProviderGame, hfind, hrename, hnumber]
    rfl
  · have hfind : l.store.providerGames.find? (fun g => g.provider = provider && g.slug = slug) =
        none := find?_table_eq_none h (isPair_iff provider slug)
    have hnumber : numberOf (l.nameRecord (provider, slug) name).records (provider, slug) =
        l.records.length + 1 := numberOf_concat_of_notMem h
    simp only [Store.putProviderGame, hfind, hnumber, table_concat_of_notMem h]
    rfl

end Operations

/-- Linking games associates them; the result says whether they were not associated before. -/
theorem store_link {a : String × String × String}
    (h : a.1 ∈ keysOf l.games ∧ a.2 ∈ keysOf l.records) :
    l.store.link (l.linkOf a).1 (l.linkOf a).2 =
      ((l.associate a h).store, decide (a ∉ l.associations)) := by
  have hcontains : l.store.links.contains ((l.linkOf a).1, (l.linkOf a).2) = true ↔
      a ∈ l.associations := List.contains_iff_mem.trans l.linkOf_mem_iff
  rw [associate_store, Store.link]
  by_cases ha : a ∈ l.associations
  · rw [if_pos (hcontains.2 ha), if_pos ha, decide_eq_false (not_not.2 ha)]
  · rw [if_neg (mt hcontains.1 ha), if_neg ha, decide_eq_true ha]

/-- Storing a provider record of a library game names the provider game and associates the two. -/
theorem store_importProvider {slug : String} (h : slug ∈ keysOf l.games) (name : String)
    (report : ImportReport) (p : ProviderRecord) :
    Store.importProvider name (numberOf l.games slug) (l.store, report) p =
      ((l.addRecord slug h (p.provider, p.slug) (p.name.getD name)).store,
        { report with
          providerGames := report.providerGames + 1
          newAssociations := report.newAssociations +
            (decide ((slug, p.provider, p.slug) ∉ l.associations)).toNat }) := by
  have hlink (pair : String × String) (name : String) :
      (l.nameRecord pair name).store.link (numberOf l.games slug)
        (numberOf (l.nameRecord pair name).records pair) =
          ((l.addRecord slug h pair name).store, decide ((slug, pair) ∉ l.associations)) :=
    (l.nameRecord pair name).store_link (a := (slug, pair)) ⟨h, by simp [nameRecord]⟩
  simp only [Store.importProvider, store_putProviderGame, hlink]

/-! ### Lookups -/

theorem store_find? {pair : String × String} (h : pair ∈ keysOf l.records) :
    l.store.find? pair.1 pair.2 = some (l.record pair) :=
  find?_table h (isPair_iff pair.1 pair.2)

theorem store_find?_eq_none {pair : String × String} (h : pair ∉ keysOf l.records) :
    l.store.find? pair.1 pair.2 = none :=
  find?_table_eq_none h (isPair_iff pair.1 pair.2)

/-- The library games of a provider game, in the order in which library games were first named. -/
theorem store_libraryGamesOf (pair : String × String) :
    l.store.libraryGamesOf (l.record pair) =
      ((distinct (keysOf l.games)).filter fun slug =>
        (slug, pair) ∈ l.associations).map l.game := by
  rw [l.ordered_store.libraryGamesOf]
  refine List.filter_map.trans (congrArg (List.map l.game) ?_)
  exact List.filter_congr fun slug _ => decide_eq_decide.2 (l.linkOf_mem_iff (a := (slug, pair)))

/-- The provider games of a library game, in the order in which provider games were first named. -/
theorem store_providerGamesOf (slug : String) :
    l.store.providerGamesOf (l.game slug) =
      ((distinct (keysOf l.records)).filter fun pair =>
        (slug, pair) ∈ l.associations).map l.record := by
  rw [l.ordered_store.providerGamesOf]
  refine List.filter_map.trans (congrArg (List.map l.record) ?_)
  exact List.filter_congr fun pair _ => decide_eq_decide.2 (l.linkOf_mem_iff (a := (slug, pair)))

end Logs

end GameFixes.Provider
