import GameFixes.Proofs.Provider.Logs

/-!
# The history of a store

A store that starts empty is told one set of records after another. Its history is all the records
that it was told, and what it holds, what it answers and what an import reports can be read off the
history. So records may be imported in one set or in several; and what was imported last may be
imported again, which changes no game and no link.

* `Store.imports`: the store after some imports;
* `mentions H` and `logsOf H`: what the records of a history list, and the logs of it;
* `importRecords_history`: an import goes on with the history, and how it reports that;
* `Store.Reflects`: a store that a history can be read off;
* `imports_reflects`: the store after some imports is one for all that was imported;
* `reportOf_append`: the reports of two imports add up to that of both sets in one;
* `listing_append_again`: the games and links of a history that ends with the same records twice;
* `importRecords_append_and_again`: both, for imports into any store that imports lead to.
-/

namespace GameFixes.Provider

/-- The store that imports make of an empty one. -/
def Store.imports (sets : List RecordSet) : Store :=
  sets.foldl (fun s records => (s.importRecords records).1) {}

/-! ### Histories -/

/-- A provider record as a library record lists it. -/
structure Mention where
  /-- The library game that lists it. -/
  game : String
  /-- The provider, and the slug there. -/
  pair : String × String
  /-- The name that it goes by. -/
  name : String

/-- The library game and the provider game that a mention associates. -/
def Mention.association (m : Mention) : String × String × String := (m.game, m.pair)

/-- The mention of a provider record by a library game with a name and a slug. -/
def ProviderRecord.mention (name slug : String) (r : ProviderRecord) : Mention :=
  ⟨slug, (r.provider, r.slug), r.name.getD name⟩

/-- The mentions of a history. -/
def mentions (history : List LibraryRecord) : List Mention :=
  history.flatMap fun r => r.providers.map (ProviderRecord.mention r.name r.slug)

/-- The associations of a history, one for each mention. -/
def associations (history : List LibraryRecord) : List (String × String × String) :=
  (mentions history).map Mention.association

@[simp] theorem mentions_append (H H' : List LibraryRecord) :
    mentions (H ++ H') = mentions H ++ mentions H' := List.flatMap_append

@[simp] theorem mentions_singleton (r : LibraryRecord) :
    mentions [r] = r.providers.map (ProviderRecord.mention r.name r.slug) := by
  simp [mentions]

@[simp] theorem associations_append (H H' : List LibraryRecord) :
    associations (H ++ H') = associations H ++ associations H' := by
  simp [associations]

/-- The logs of a history. -/
def logsOf (history : List LibraryRecord) : Logs where
  games := history.map fun r => (r.slug, r.name)
  records := (mentions history).map fun m => (m.pair, m.name)
  associations := distinct (associations history)
  listed a ha := by
    obtain ⟨m, hm, rfl⟩ := List.mem_map.1 (mem_distinct.1 ha)
    obtain ⟨r, hr, hm'⟩ := List.mem_flatMap.1 hm
    obtain ⟨p, -, rfl⟩ := List.mem_map.1 hm'
    exact ⟨List.mem_map.2 ⟨_, List.mem_map_of_mem hr, rfl⟩,
      List.mem_map.2 ⟨_, List.mem_map_of_mem hm, rfl⟩⟩
  nodup := nodup_distinct _

/-- The report of an import that goes on with a history. -/
def reportOf (history records : List LibraryRecord) : ImportReport where
  libraryGames := records.length
  providerGames := (mentions records).length
  newAssociations := (fresh (associations history) (associations records)).length

/-! ### Imports -/

section Imports

variable (H S : List LibraryRecord) (name slug : String) (ps : List ProviderRecord)
  (p : ProviderRecord)

theorem mem_games_concat :
    slug ∈ keysOf (logsOf (H ++ [⟨name, slug, ps⟩])).games := by
  simp [logsOf]

/-- A library record without provider records names its game. -/
theorem logsOf_concat_nil :
    logsOf (H ++ [⟨name, slug, []⟩]) = (logsOf H).nameGame slug name := by
  apply Logs.ext
  · simp [logsOf, Logs.nameGame]
  · simp [logsOf, Logs.nameGame]
  · simp [logsOf, Logs.nameGame, associations]

theorem mentions_concat_concat : mentions (H ++ [⟨name, slug, ps ++ [p]⟩]) =
    mentions (H ++ [⟨name, slug, ps⟩]) ++ [p.mention name slug] := by
  simp

theorem associations_concat_concat : associations (H ++ [⟨name, slug, ps ++ [p]⟩]) =
    associations (H ++ [⟨name, slug, ps⟩]) ++ [(slug, p.provider, p.slug)] := by
  rw [associations, mentions_concat_concat, List.map_append]
  rfl

/-- One more provider record names its game and associates it. -/
theorem logsOf_concat_concat : logsOf (H ++ [⟨name, slug, ps ++ [p]⟩]) =
    (logsOf (H ++ [⟨name, slug, ps⟩])).addRecord slug (mem_games_concat H name slug ps)
      (p.provider, p.slug) (p.name.getD name) := by
  apply Logs.ext
  · simp [logsOf, Logs.addRecord, Logs.associate, Logs.nameRecord]
  · show (mentions _).map _ = _
    rw [mentions_concat_concat, List.map_append]
    rfl
  · show distinct (associations _) = _
    rw [associations_concat_concat, distinct_concat]
    show _ = if _ ∈ distinct (associations _) then distinct (associations _) else _
    simp only [mem_distinct]
    split_ifs with h
    · rfl
    · rfl

theorem reportOf_concat_nil : reportOf H (S ++ [⟨name, slug, []⟩]) =
    { reportOf H S with libraryGames := S.length + 1 } := by
  simp [reportOf, associations]

theorem reportOf_concat_concat : reportOf H (S ++ [⟨name, slug, ps ++ [p]⟩]) =
    { reportOf H (S ++ [⟨name, slug, ps⟩]) with
      providerGames := (reportOf H (S ++ [⟨name, slug, ps⟩])).providerGames + 1
      newAssociations := (reportOf H (S ++ [⟨name, slug, ps⟩])).newAssociations +
        (decide ((slug, p.provider, p.slug) ∉
          (logsOf (H ++ S ++ [⟨name, slug, ps⟩])).associations)).toNat } := by
  have hmem : (slug, p.provider, p.slug) ∈ (logsOf (H ++ S ++ [⟨name, slug, ps⟩])).associations ↔
      (slug, p.provider, p.slug) ∈ associations H ++ associations (S ++ [⟨name, slug, ps⟩]) := by
    rw [← associations_append, ← List.append_assoc]
    exact mem_distinct
  simp only [reportOf, mentions_concat_concat, associations_concat_concat, fresh_concat, hmem,
    List.length_append, List.length_singleton]
  by_cases h : (slug, p.provider, p.slug) ∈
      associations H ++ associations (S ++ [⟨name, slug, ps⟩])
  · rw [if_pos h, decide_eq_false (not_not.2 h)]
    rfl
  · rw [if_neg h, decide_eq_true h, List.length_append]
    rfl

theorem importGame_concat (state : Store × ImportReport) :
    Store.importGame state ⟨name, slug, ps ++ [p]⟩ =
      Store.importProvider name (state.1.putLibraryGame name slug).2
        (Store.importGame state ⟨name, slug, ps⟩) p := by
  obtain ⟨s, report⟩ := state
  show (ps ++ [p]).foldl _ _ = _
  rw [List.foldl_append]
  rfl

/-- Storing a library record goes on with the history. -/
theorem importGame_history (r : LibraryRecord) :
    Store.importGame ((logsOf (H ++ S)).store, reportOf H S) r =
      ((logsOf (H ++ S ++ [r])).store, reportOf H (S ++ [r])) := by
  obtain ⟨name, slug, ps⟩ := r
  have hgame := (logsOf (H ++ S)).store_putLibraryGame slug name
  rw [← logsOf_concat_nil] at hgame
  -- within the record, the store is that of a record with only the provider records so far
  induction ps using List.reverseRecOn with
  | nil =>
    simp only [Store.importGame, hgame, List.foldl_nil, reportOf_concat_nil]
    rfl
  | append_singleton ps p ih =>
    have hnumber : numberOf (logsOf (H ++ S ++ [⟨name, slug, []⟩])).games slug =
        numberOf (logsOf (H ++ S ++ [⟨name, slug, ps⟩])).games slug := by
      simp [logsOf]
    rw [importGame_concat, ih, hgame, hnumber,
      Logs.store_importProvider _ (mem_games_concat (H ++ S) name slug ps), logsOf_concat_concat,
      reportOf_concat_concat]

end Imports

/-- An import goes on with the history. -/
theorem importRecords_history (H : List LibraryRecord) (records : RecordSet) :
    (logsOf H).store.importRecords records =
      ((logsOf (H ++ records)).store, reportOf H records) := by
  unfold Store.importRecords
  induction records using List.reverseRecOn with
  | nil =>
    rw [List.append_nil]
    rfl
  | append_singleton records r ih =>
    have hstep := importGame_history H records r
    rw [← ih] at hstep
    rw [List.foldl_append, ← List.append_assoc]
    exact hstep

/-- The store after some imports is that of all records that were imported. -/
theorem imports_eq (sets : List RecordSet) :
    Store.imports sets = (logsOf sets.flatten).store := by
  unfold Store.imports
  induction sets using List.reverseRecOn with
  | nil => rfl
  | append_singleton sets records ih =>
    rw [List.foldl_append, ih, List.flatten_append, List.flatten_singleton]
    show ((logsOf sets.flatten).store.importRecords records).1 = _
    rw [importRecords_history]

/-- The second attempt to store a game gives it a new name, and takes a number that is not used. -/
example :
    Store.imports
      [[⟨"Grim", "grim", [⟨"steam", "316720", none⟩]⟩],
        [⟨"Grim Fandango", "grim", [⟨"steam", "316720", none⟩, ⟨"gog", "12", some "Grim"⟩]⟩]] =
      { libraryGames := [⟨1, "Grim Fandango", "grim"⟩]
        providerGames := [⟨1, "steam", "316720", "Grim Fandango"⟩, ⟨3, "gog", "12", "Grim"⟩]
        links := [(1, 1), (1, 3)]
        libraryCounter := 2
        providerCounter := 3 } := by
  decide +kernel

/-! ### What a store answers -/

/-- Whether a library record lists what a provider has under a slug. -/
def LibraryRecord.Lists (r : LibraryRecord) (pair : String × String) : Prop :=
  ∃ p ∈ r.providers, (p.provider, p.slug) = pair

instance (r : LibraryRecord) (pair : String × String) : Decidable (r.Lists pair) :=
  inferInstanceAs (Decidable (∃ p ∈ r.providers, (p.provider, p.slug) = pair))

/-- A store that a history can be read off. -/
structure Store.Reflects (s : Store) (history : List LibraryRecord) : Prop where
  librarySlugs : (s.libraryGames.map (·.slug)).Nodup
  libraryIds : (s.libraryGames.map (·.id)).Nodup
  providerPairs : (s.providerGames.map fun g => (g.provider, g.slug)).Nodup
  providerIds : (s.providerGames.map (·.id)).Nodup
  links : s.links.Nodup
  /-- Links refer to games. -/
  linked : ∀ link ∈ s.links,
    link.1 ∈ s.libraryGames.map (·.id) ∧ link.2 ∈ s.providerGames.map (·.id)
  /-- What is listed is found, with the number of the first mention and the name of the last. -/
  find : ∀ provider slug, s.index.findProviderGame provider slug =
    .ok (if ∃ r ∈ history, r.Lists (provider, slug) then
      some ((logsOf history).record (provider, slug)) else none)
  /-- A provider game has the library games that list it, in the order in which these came first,
  each with the name that it was given last. -/
  library : ∀ pair, s.index.libraryGamesFor ((logsOf history).record pair) =
    .ok (((distinct (history.map (·.slug))).filter fun slug =>
      ∃ r ∈ history, r.slug = slug ∧ r.Lists pair).map (logsOf history).game)
  /-- A library game has the provider games that it lists, in the order in which these came
  first. -/
  provider : ∀ slug, s.index.providerGamesFor ((logsOf history).game slug) =
    .ok (((distinct ((mentions history).map (·.pair))).filter fun pair =>
      ∃ r ∈ history, r.slug = slug ∧ r.Lists pair).map (logsOf history).record)

section Answers

variable {H : List LibraryRecord} {slug : String} {pair : String × String}

theorem mem_mentions_iff {m : Mention} :
    m ∈ mentions H ↔ ∃ r ∈ H, ∃ p ∈ r.providers, p.mention r.name r.slug = m := by
  simp [mentions]

theorem mem_associations_iff :
    (slug, pair) ∈ associations H ↔ ∃ r ∈ H, r.slug = slug ∧ r.Lists pair := by
  constructor
  · intro h
    obtain ⟨m, hm, heq⟩ := List.mem_map.1 h
    obtain ⟨r, hr, p, hp, rfl⟩ := mem_mentions_iff.1 hm
    obtain ⟨rfl, rfl⟩ := Prod.mk.inj heq
    exact ⟨r, hr, rfl, p, hp, rfl⟩
  · rintro ⟨r, hr, rfl, p, hp, rfl⟩
    exact List.mem_map.2 ⟨_, mem_mentions_iff.2 ⟨r, hr, p, hp, rfl⟩, rfl⟩

theorem keysOf_games : keysOf (logsOf H).games = H.map (·.slug) := List.map_map

theorem keysOf_records : keysOf (logsOf H).records = (mentions H).map (·.pair) := List.map_map

theorem mem_records_iff : pair ∈ keysOf (logsOf H).records ↔ ∃ r ∈ H, r.Lists pair := by
  rw [keysOf_records]
  constructor
  · intro h
    obtain ⟨m, hm, rfl⟩ := List.mem_map.1 h
    obtain ⟨r, hr, p, hp, rfl⟩ := mem_mentions_iff.1 hm
    exact ⟨r, hr, p, hp, rfl⟩
  · rintro ⟨r, hr, p, hp, rfl⟩
    exact List.mem_map.2 ⟨_, mem_mentions_iff.2 ⟨r, hr, p, hp, rfl⟩, rfl⟩

/-- The store of a history reflects it. -/
theorem reflects_history (H : List LibraryRecord) : (logsOf H).store.Reflects H where
  librarySlugs := (logsOf H).map_slug_libraryGames ▸ nodup_distinct _
  libraryIds := (logsOf H).ordered_store.libraryIds_nodup
  providerPairs := (logsOf H).map_pair_providerGames ▸ nodup_distinct _
  providerIds := (logsOf H).ordered_store.providerIds_nodup
  links := (logsOf H).ordered_store.links
  linked _ := (logsOf H).mem_ids_of_mem_links
  find provider slug := by
    refine congrArg Except.ok ?_
    split_ifs with h
    · exact (logsOf H).store_find? (mem_records_iff.2 h)
    · exact (logsOf H).store_find?_eq_none (mt mem_records_iff.1 h)
  library pair := by
    refine congrArg Except.ok (((logsOf H).store_libraryGamesOf pair).trans ?_)
    rw [keysOf_games]
    congr 1
    refine List.filter_congr fun slug _ => decide_eq_decide.2 ?_
    exact mem_distinct.trans mem_associations_iff
  provider slug := by
    refine congrArg Except.ok (((logsOf H).store_providerGamesOf slug).trans ?_)
    rw [keysOf_records]
    congr 1
    refine List.filter_congr fun pair _ => decide_eq_decide.2 ?_
    exact mem_distinct.trans mem_associations_iff

end Answers

/-- A provider game that is found keeps its number, whatever is imported later. -/
theorem find?_imports_append {sets : List RecordSet} {provider slug : String} {g : ProviderGame}
    (hg : (Store.imports sets).find? provider slug = some g) (later : List RecordSet) :
    ∃ g', (Store.imports (sets ++ later)).find? provider slug = some g' ∧ g'.id = g.id := by
  rw [imports_eq] at hg ⊢
  have hrecords : (logsOf (sets ++ later).flatten).records =
      (logsOf sets.flatten).records ++ (logsOf later.flatten).records := by
    simp [logsOf]
  by_cases h : (provider, slug) ∈ keysOf (logsOf sets.flatten).records
  · obtain rfl := Option.some.inj ((Logs.store_find? _ h).symm.trans hg)
    have hlater : (provider, slug) ∈ keysOf (logsOf (sets ++ later).flatten).records := by
      rw [hrecords, keysOf_append]
      exact List.mem_append_left _ h
    refine ⟨_, Logs.store_find? _ hlater, ?_⟩
    show numberOf _ _ = numberOf _ _
    rw [hrecords, numberOf_append_of_mem h]
  · cases (Logs.store_find?_eq_none _ h).symm.trans hg

/-- The store after any imports reflects all that was imported; a provider game that is found keeps
its number whatever is imported later; and an import reports how many records it stored, and how
many associations were not there before. -/
theorem imports_reflects (sets : List RecordSet) :
    (Store.imports sets).Reflects sets.flatten ∧
      (∀ later provider slug g, (Store.imports sets).find? provider slug = some g →
        ∃ g', (Store.imports (sets ++ later)).find? provider slug = some g' ∧ g'.id = g.id) ∧
      ∀ records, (Store.imports sets).importRecords records =
        (Store.imports (sets ++ [records]), reportOf sets.flatten records) := by
  refine ⟨imports_eq sets ▸ reflects_history _,
    fun later _ _ _ hg => find?_imports_append hg later, fun records => ?_⟩
  rw [imports_eq, imports_eq, importRecords_history, List.flatten_append, List.flatten_singleton]

/-! ### Imports one after another -/

section Repetition

/-- The numbers of two reports put together. -/
instance : Add ImportReport where
  add r s := ⟨r.libraryGames + s.libraryGames, r.providerGames + s.providerGames,
    r.newAssociations + s.newAssociations⟩

variable (H A B : List LibraryRecord)

/-- What is new in the second of two sets is what neither the history nor the first set has. -/
theorem reportOf_append : reportOf H (A ++ B) = reportOf H A + reportOf (H ++ A) B := by
  unfold reportOf
  rw [mentions_append, associations_append, associations_append, fresh_append]
  simp only [List.length_append]
  rfl

theorem games_append : (logsOf (H ++ A)).games = (logsOf H).games ++ (logsOf A).games :=
  List.map_append

theorem records_append : (logsOf (H ++ A)).records = (logsOf H).records ++ (logsOf A).records := by
  simp [logsOf]

/-- No association of a repeated set is new. -/
theorem fresh_associations_again :
    fresh (associations (H ++ A)) (associations A) = [] := by
  refine fresh_eq_nil fun a ha => ?_
  rw [associations_append]
  exact List.mem_append_right _ ha

theorem associations_append_again :
    (logsOf (H ++ A ++ A)).associations = (logsOf (H ++ A)).associations := by
  show distinct (associations (H ++ A ++ A)) = distinct (associations (H ++ A))
  rw [associations_append (H ++ A), distinct_append, fresh_associations_again, List.append_nil]

/-- Games keep their numbers when more records are imported, and so do links. -/
theorem linkOf_append {a : String × String × String} (ha : a ∈ (logsOf H).associations) :
    (logsOf (H ++ A)).linkOf a = (logsOf H).linkOf a := by
  obtain ⟨hgame, hrecord⟩ := (logsOf H).listed a ha
  rw [Logs.linkOf, Logs.linkOf, games_append, records_append, numberOf_append_of_mem hgame,
    numberOf_append_of_mem hrecord]

/-- Records that are imported twice in a row leave the games and links of the first time. -/
theorem listing_append_again :
    (logsOf (H ++ A ++ A)).store.listing = (logsOf (H ++ A)).store.listing := by
  have hgames : table libraryRow (logsOf (H ++ A ++ A)).games =
      table libraryRow (logsOf (H ++ A)).games := by
    rw [games_append (H ++ A), games_append H, table_append_again]
  have hrecords : table providerRow (logsOf (H ++ A ++ A)).records =
      table providerRow (logsOf (H ++ A)).records := by
    rw [records_append (H ++ A), records_append H, table_append_again]
  have hlinks : (logsOf (H ++ A ++ A)).associations.map (logsOf (H ++ A ++ A)).linkOf =
      (logsOf (H ++ A)).associations.map (logsOf (H ++ A)).linkOf := by
    rw [associations_append_again]
    exact List.map_congr_left fun a ha => linkOf_append (H ++ A) A ha
  unfold Store.listing Logs.store
  rw [hgames, hrecords, hlinks]

/-- **Imports add up, and once more is no more.** Importing two sets one after the other leads to the
store of one import of both in one set, counters included, with reports that add up to its report;
and importing a set again right away reports no new association and leaves every game and link as
it is. -/
theorem importRecords_append_and_again (sets : List RecordSet) (A B : RecordSet) :
    let s := Store.imports sets
    let first := s.importRecords A
    let second := first.1.importRecords B
    let again := first.1.importRecords A
    s.importRecords (A ++ B) = (second.1, first.2 + second.2) ∧
      again.2.newAssociations = 0 ∧ again.1.listing = first.1.listing := by
  intro s first second again
  have hfirst : first = ((logsOf (sets.flatten ++ A)).store, reportOf sets.flatten A) := by
    rw [← importRecords_history, ← imports_eq]
  have hnext (records : RecordSet) : first.1.importRecords records =
      ((logsOf (sets.flatten ++ A ++ records)).store, reportOf (sets.flatten ++ A) records) := by
    rw [hfirst, importRecords_history]
  refine ⟨?_, ?_, ?_⟩
  · have hsecond : second = _ := hnext B
    rw [hsecond, hfirst, ← reportOf_append, List.append_assoc, ← importRecords_history,
      ← imports_eq]
  · have hagain : again = _ := hnext A
    rw [hagain]
    show (fresh _ _).length = 0
    rw [fresh_associations_again, List.length_nil]
  · have hagain : again = _ := hnext A
    rw [hagain, hfirst]
    exact listing_append_again sets.flatten A

end Repetition

end GameFixes.Provider
