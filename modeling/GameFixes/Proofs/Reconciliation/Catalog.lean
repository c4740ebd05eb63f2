import GameFixes.Proofs.Reconciliation.Lookups

/-!
# The catalog side of a reconciliation

Which entry of each catalog identifier is used, and what its entries add to a report. The plain
identifier is looked up for the first entry that can be in the library; the entries in front of it
are no library games, and those behind it are not looked at.

* `passedOver`, `used?`: the entries of an identifier that are no library games, and the one used;
* `contribution`: what the entries of an identifier add to a report;
* `exists_entryFindings_shows`: the findings about these entries are that contribution;
* `entryLookups`, `notes_entryFindings`: what is looked up for these entries;
* `notes_reconcile`: what is looked up for the whole catalog, and then for the fixes;
* `reconcile_contributions`: the report of a reconciliation, and the log of its lookups, identifier
  by identifier.
-/

namespace GameFixes

open Provider

/-! ### Contributions -/

/-- An identifier that has digits only, and some. -/
def IsNumeric (id : String) : Prop := id ≠ "" ∧ ∀ c ∈ id.toList, c.isDigit = true

theorem isLibraryId_iff {id : String} : isLibraryId id = true ↔ IsNumeric id := by
  simp [isLibraryId, IsNumeric]

instance (id : String) : Decidable (IsNumeric id) := decidable_of_iff _ isLibraryId_iff

/-- The entries of a plain identifier that are no library games: those in front of the first whose
code name is something else, and all of them if the identifier is not numeric. -/
def passedOver (id : String) (es : List Catalog.Entry) : List Catalog.Entry :=
  if IsNumeric id then es.takeWhile (·.codeName = some id) else es

/-- The entry of a plain identifier that is used: the first whose code name is something else, if
the identifier is numeric. -/
def used? (id : String) (es : List Catalog.Entry) : Option Catalog.Entry :=
  if IsNumeric id then es.find? (·.codeName ≠ some id) else none

/-- The lookups for the entries of a plain identifier: those for the identifier if one of these
entries is used, and none otherwise. -/
def entryLookups (index : Index) (options : Options) (id : String) (es : List Catalog.Entry) :
    List Lookup :=
  if (used? id es).isSome then lookupsFor index options id else []

/-- What the entries of an identifier add to a report. -/
@[ext] structure Contribution where
  withoutFixes : List CatalogMiss := []
  nonLibrary : List CatalogMiss := []
  missingLibraryRecords : List CatalogMiss := []
  catalogAssociations : List ProviderGame := []

namespace Contribution

instance : Append Contribution where
  append c d :=
    { withoutFixes := c.withoutFixes ++ d.withoutFixes
      nonLibrary := c.nonLibrary ++ d.nonLibrary
      missingLibraryRecords := c.missingLibraryRecords ++ d.missingLibraryRecords
      catalogAssociations := c.catalogAssociations ++ d.catalogAssociations }

/-- The contributions along a list, one after another. -/
def along {α : Type} (c : α → Contribution) (l : List α) : Contribution where
  withoutFixes := l.flatMap fun a => (c a).withoutFixes
  nonLibrary := l.flatMap fun a => (c a).nonLibrary
  missingLibraryRecords := l.flatMap fun a => (c a).missingLibraryRecords
  catalogAssociations := l.flatMap fun a => (c a).catalogAssociations

theorem append_empty (c : Contribution) : c ++ ({} : Contribution) = c := by
  ext1 <;> exact List.append_nil _

theorem along_empty {α : Type} (l : List α) : along (fun _ => {}) l = {} := by
  ext1 <;> exact List.flatMap_eq_nil_iff.2 fun _ _ => rfl

end Contribution

/-- The misses that entries of a plain identifier are. -/
def missesOf (id : String) (es : List Catalog.Entry) : List CatalogMiss :=
  es.map fun e => ⟨e.title, id⟩

/-- What the entries of a plain identifier add to a report. All that are looked at lack a fix or
none does; those that are passed over are no library games; the one that is used lacks a record or
leads to the records associated with the one it has. -/
def contribution (index : Index) (options : Options) (fixIds : TextSet) (id : String)
    (es : List Catalog.Entry) : Contribution :=
  let used := (used? id es).toList
  let record := index.found? options.libraryProvider id
  { withoutFixes := if id ∈ fixIds.toList then [] else missesOf id (passedOver id es ++ used)
    nonLibrary := missesOf id (passedOver id es)
    missingLibraryRecords := if record = none then missesOf id used else []
    catalogAssociations :=
      used.flatMap fun _ => record.elim [] (associatedRecords index options) }

/-! ### Entry by entry -/

section Entries

variable {id : String} {e : Catalog.Entry} {es : List Catalog.Entry}

theorem mayBeInLibrary_iff {options : Options} (he : plainId options.idPrefix e.catalogId = id) :
    mayBeInLibrary options e = true ↔ IsNumeric id ∧ e.codeName ≠ some id := by
  rw [mayBeInLibrary, he, Bool.and_eq_true, isLibraryId_iff, decide_eq_true_iff]

theorem not_mayBeInLibrary_iff {options : Options}
    (he : plainId options.idPrefix e.catalogId = id) :
    mayBeInLibrary options e = false ↔ ¬ (IsNumeric id ∧ e.codeName ≠ some id) := by
  rw [← mayBeInLibrary_iff he, Bool.not_eq_true]

theorem passedOver_cons_of_used (h : IsNumeric id ∧ e.codeName ≠ some id) :
    passedOver id (e :: es) = [] := by
  rw [passedOver, if_pos h.1, List.takeWhile_cons_of_neg (by simpa using h.2)]

theorem used?_cons_of_used (h : IsNumeric id ∧ e.codeName ≠ some id) :
    used? id (e :: es) = some e := by
  rw [used?, if_pos h.1, List.find?_cons_of_pos (by simpa using h.2)]

theorem passedOver_cons_of_passed (h : ¬ (IsNumeric id ∧ e.codeName ≠ some id)) :
    passedOver id (e :: es) = e :: passedOver id es := by
  unfold passedOver
  split_ifs with hid
  · have hcode : e.codeName = some id := by simpa [hid] using h
    rw [List.takeWhile_cons_of_pos (by simpa using hcode)]
  · rfl

theorem used?_cons_of_passed (h : ¬ (IsNumeric id ∧ e.codeName ≠ some id)) :
    used? id (e :: es) = used? id es := by
  unfold used?
  split_ifs with hid
  · have hcode : e.codeName = some id := by simpa [hid] using h
    rw [List.find?_cons_of_neg (by simpa using hcode)]
  · rfl

section

variable {index : Index} {options : Options} {fixIds : TextSet}

theorem entryLookups_nil : entryLookups index options id [] = [] := by
  simp [entryLookups, used?]

theorem entryLookups_cons_of_used (h : IsNumeric id ∧ e.codeName ≠ some id) :
    entryLookups index options id (e :: es) = lookupsFor index options id := by
  rw [entryLookups, used?_cons_of_used h]
  rfl

theorem entryLookups_cons_of_passed (h : ¬ (IsNumeric id ∧ e.codeName ≠ some id)) :
    entryLookups index options id (e :: es) = entryLookups index options id es := by
  rw [entryLookups, used?_cons_of_passed h]
  rfl

theorem contribution_nil : contribution index options fixIds id [] = {} := by
  simp [contribution, passedOver, used?, missesOf]

/-- The entry that is used is the last that is looked at. -/
theorem contribution_cons_of_used (h : IsNumeric id ∧ e.codeName ≠ some id) :
    contribution index options fixIds id (e :: es) =
      ({ withoutFixes := if id ∈ fixIds.toList then [] else [⟨e.title, id⟩] } : Contribution) ++
        { missingLibraryRecords :=
            if index.found? options.libraryProvider id = none then [⟨e.title, id⟩] else []
          catalogAssociations := (index.found? options.libraryProvider id).elim []
            (associatedRecords index options) } := by
  unfold contribution
  rw [passedOver_cons_of_used h, used?_cons_of_used h]
  simp only [Option.toList_some, List.nil_append, List.flatMap_singleton]
  ext : 1
  · exact (List.append_nil _).symm
  · rfl
  · rfl
  · rfl

/-- An entry that is no library game is passed over. -/
theorem contribution_cons_of_passed (h : ¬ (IsNumeric id ∧ e.codeName ≠ some id)) :
    contribution index options fixIds id (e :: es) =
      ({ withoutFixes := if id ∈ fixIds.toList then [] else [⟨e.title, id⟩] } : Contribution) ++
        ({ nonLibrary := [⟨e.title, id⟩] } : Contribution) ++
        contribution index options fixIds id es := by
  unfold contribution
  rw [passedOver_cons_of_passed h, used?_cons_of_passed h]
  ext : 1
  · show _ = (if id ∈ fixIds.toList then [] else _) ++ [] ++ if id ∈ fixIds.toList then [] else _
    split_ifs with hfix
    · rfl
    · rfl
  · rfl
  · rfl
  · rfl

end

end Entries

/-! ### The findings about entries -/

/-- A report says what a contribution says. -/
structure Report.Shows (r : Report) (c : Contribution) : Prop where
  withoutFixes : r.withoutFixes = c.withoutFixes
  nonLibrary : r.nonLibrary = c.nonLibrary
  missingLibraryRecords : r.missingLibraryRecords = c.missingLibraryRecords
  catalogAssociations : r.catalogAssociations = c.catalogAssociations

theorem Report.Shows.append {r s : Report} {c d : Contribution} (hr : r.Shows c) (hs : s.Shows d) :
    (r ++ s).Shows (c ++ d) where
  withoutFixes := congrArg₂ (· ++ ·) hr.withoutFixes hs.withoutFixes
  nonLibrary := congrArg₂ (· ++ ·) hr.nonLibrary hs.nonLibrary
  missingLibraryRecords := congrArg₂ (· ++ ·) hr.missingLibraryRecords hs.missingLibraryRecords
  catalogAssociations := congrArg₂ (· ++ ·) hr.catalogAssociations hs.catalogAssociations

/-- All that is found about the fix of an entry is whether there is one. -/
theorem fixFindings_shows (fixIds : TextSet) (miss : CatalogMiss) :
    (fixFindings fixIds miss).Shows
      { withoutFixes := if miss.libraryId ∈ fixIds.toList then [] else [miss] } := by
  unfold fixFindings TextSet.toList
  simp only [← TextMap.contains_iff_mem_keys]
  split_ifs with h
  · exact ⟨rfl, rfl, rfl, rfl⟩
  · exact ⟨rfl, rfl, rfl, rfl⟩

section

variable {index : Index} (options : Options) (fixIds : TextSet)

/-- The findings about entries of one identifier are its contribution. -/
theorem exists_entryFindings_shows (h : index.NeverFails) (es : List Catalog.Entry) :
    ∃ r, entryFindings index options fixIds es = .ok r ∧
      ∀ id, (∀ e ∈ es, plainId options.idPrefix e.catalogId = id) →
        r.Shows (contribution index options fixIds id es) := by
  refine exists_entryFindings_of (P := fun es r =>
    ∀ id, (∀ e ∈ es, plainId options.idPrefix e.catalogId = id) →
      r.Shows (contribution index options fixIds id es)) ?nil ?used ?passed es
  case nil =>
    intro id _
    rw [contribution_nil]
    exact ⟨rfl, rfl, rfl, rfl⟩
  case used =>
    intro e es hmay
    obtain ⟨events, hr⟩ := exists_libraryFindings h options (missOf options e)
    refine ⟨_, hr, fun id hid => ?_⟩
    have he : plainId options.idPrefix e.catalogId = id := hid e List.mem_cons_self
    rw [contribution_cons_of_used ((mayBeInLibrary_iff he).1 hmay), missOf, he]
    exact (fixFindings_shows fixIds _).append ⟨rfl, rfl, rfl, rfl⟩
  case passed =>
    intro e es r hmay hr id hid
    rw [List.forall_mem_cons] at hid
    obtain ⟨he, hes⟩ := hid
    rw [contribution_cons_of_passed ((not_mayBeInLibrary_iff he).1 hmay), missOf, he]
    exact ((fixFindings_shows fixIds _).append ⟨rfl, rfl, rfl, rfl⟩).append (hr id hes)

/-- The lookups for the entries of one identifier are those for the one that is used. -/
theorem notes_entryFindings (h : index.NeverFails) {id : String} {es : List Catalog.Entry}
    (hid : ∀ e ∈ es, plainId options.idPrefix e.catalogId = id) :
    Notes (entryFindings index.logged options fixIds es) (entryFindings index options fixIds es)
      (entryLookups index options id es) := by
  induction es with
  | nil =>
    rw [entryLookups_nil]
    exact notes_pure ({} : Report)
  | cons e es ih =>
    rw [List.forall_mem_cons] at hid
    obtain ⟨he, hes⟩ := hid
    rw [entryFindings, entryFindings]
    by_cases hmay : IsNumeric id ∧ e.codeName ≠ some id
    · simp only [(mayBeInLibrary_iff he).2 hmay, if_true, entryLookups_cons_of_used hmay]
      have hnotes := notes_libraryFindings h options (missOf options e)
      rw [missOf, he] at hnotes ⊢
      exact hnotes.map _
    · simp only [(not_mayBeInLibrary_iff he).2 hmay, entryLookups_cons_of_passed hmay]
      exact (ih hes).map _

end

/-! ### The report -/

theorem forall_plainId_eq (options : Options) (entries : List Catalog.Entry) (id : String) :
    ∀ e ∈ entries.filter (·.catalogId = id),
      plainId options.idPrefix e.catalogId = plainId options.idPrefix id := by
  intro e he
  rw [of_decide_eq_true (List.mem_filter.1 he).2]

/-- What is looked up: for each identifier what its entries need, and then the fixes that no entry
names. -/
theorem notes_reconcile {index : Index} (h : index.NeverFails) (options : Options)
    (entries : List Catalog.Entry) (fixIds : TextSet) :
    Notes (reconcile index.logged options (Catalog.group entries) fixIds)
      (reconcile index options (Catalog.group entries) fixIds)
      (((Catalog.group entries).keys.flatMap fun id =>
          entryLookups index options (plainId options.idPrefix id)
            (entries.filter (·.catalogId = id))) ++
        (unnamedFixes options entries fixIds).flatMap (lookupsFor index options)) := by
  unfold reconcile
  rw [unmatchedFixes_group, Catalog.values_group, Report.concat_map, Report.concat_map]
  refine (notes_concat fun id _ =>
    notes_entryFindings options fixIds h (forall_plainId_eq options entries id)).bind fun r _ => ?_
  exact (notes_concat fun id _ => notes_unmatchedFindings h options id).map _

/-- Findings are put together part by part. -/
theorem total_shows {α : Type} {c : α → Contribution} {l : List α} {rs : List Report}
    (h : List.Forall₂ (fun a r => r.Shows (c a)) l rs) :
    (Report.total rs).Shows (.along c l) where
  withoutFixes := Report.part_total rfl (fun _ _ => rfl) (h.imp fun _ _ hr => hr.withoutFixes)
  nonLibrary := Report.part_total rfl (fun _ _ => rfl) (h.imp fun _ _ hr => hr.nonLibrary)
  missingLibraryRecords :=
    Report.part_total rfl (fun _ _ => rfl) (h.imp fun _ _ hr => hr.missingLibraryRecords)
  catalogAssociations :=
    Report.part_total rfl (fun _ _ => rfl) (h.imp fun _ _ hr => hr.catalogAssociations)

/-- What a report says of the catalog is contributed by its identifiers; the fixes that no entry
names add nothing to it. -/
theorem exists_reconcile_shows {index : Index} (h : index.NeverFails) (options : Options)
    (entries : List Catalog.Entry) (fixIds : TextSet) :
    ∃ r, reconcile index options (Catalog.group entries) fixIds = .ok r ∧
      r.Shows (.along (fun id => contribution index options fixIds (plainId options.idPrefix id)
        (entries.filter (·.catalogId = id))) (Catalog.group entries).keys) := by
  obtain ⟨cs, fs, events, hr, hcs, hfs⟩ := exists_reconcile (Catalog.group entries)
    (Q := fun _ r => r.Shows {})
    (fun es _ => exists_entryFindings_shows options fixIds h es)
    (fun id _ => by
      obtain ⟨events, hf⟩ := exists_unmatchedFindings h options id
      exact ⟨_, hf, rfl, rfl, rfl, rfl⟩)
  rw [Catalog.values_group, List.forall₂_map_left_iff] at hcs
  have hcatalog := total_shows <|
    hcs.imp fun id r hshows => hshows _ (forall_plainId_eq options entries id)
  have hfixes := total_shows hfs
  rw [Contribution.along_empty] at hfixes
  have hshows := hcatalog.append hfixes
  rw [Contribution.append_empty] at hshows
  -- the events, which are put in at the end, are no part of what is said of the catalog
  exact ⟨_, hr, hshows.withoutFixes, hshows.nonLibrary, hshows.missingLibraryRecords,
    hshows.catalogAssociations⟩

/-- **Every identifier of a catalog contributes by itself.** The identifiers are gone through in
ascending order, and each adds to the report what its entries contribute. An index with a log leads
to the same report, and these are all lookups in the log: for an identifier with an entry that is
used, the plain identifier once and then the games of its record; for another identifier none; and
last, in the same way, each fix that no entry names. -/
theorem reconcile_contributions {index : Index} (h : index.NeverFails) (options : Options)
    (entries : List Catalog.Entry) (fixIds : TextSet) :
    let ids := (Catalog.group entries).keys
    let group id := entries.filter (·.catalogId = id)
    let added id := contribution index options fixIds (plainId options.idPrefix id) (group id)
    ids.Pairwise (· < ·) ∧ (∀ id, id ∈ ids ↔ ∃ e ∈ entries, e.catalogId = id) ∧
      ∃ r, reconcile index options (Catalog.group entries) fixIds = .ok r ∧
        r.withoutFixes = ids.flatMap (fun id => (added id).withoutFixes) ∧
        r.nonLibrary = ids.flatMap (fun id => (added id).nonLibrary) ∧
        r.missingLibraryRecords = ids.flatMap (fun id => (added id).missingLibraryRecords) ∧
        r.catalogAssociations = ids.flatMap (fun id => (added id).catalogAssociations) ∧
        (reconcile index.logged options (Catalog.group entries) fixIds).runFrom [] =
          (.ok r, ids.flatMap (fun id =>
              entryLookups index options (plainId options.idPrefix id) (group id)) ++
            (unnamedFixes options entries fixIds).flatMap (lookupsFor index options)) := by
  intro ids group added
  obtain ⟨r, hr, hshows⟩ := exists_reconcile_shows h options entries fixIds
  obtain ⟨r', hr', hlog⟩ := notes_reconcile h options entries fixIds
  rw [hr] at hr'
  cases hr'
  exact ⟨TextMap.keys_pairwise _, fun id => Catalog.mem_keys_group_iff, r, hr,
    hshows.withoutFixes, hshows.nonLibrary, hshows.missingLibraryRecords,
    hshows.catalogAssociations, hlog []⟩

/-- An identifier with an entry that is passed over, one that is used and one that is not looked at;
one that is no number; and one whose entry has neither a fix nor a record. -/
theorem reconcile_contributions_passedThenUsed :
    let dota : ProviderGame := ⟨1, "steam", "570", "Dota 2"⟩
    let game : LibraryGame := ⟨1, "Dota 2", "dota-2"⟩
    let index := Listing.index
      { providerGames := [dota, ⟨2, "gog", "dota", "Dota 2 (GOG)"⟩]
        libraryGames := [game]
        links := [(1, 1), (1, 2)] }
    let entries := [⟨"ulwgl-570", "Dota 2", some "570", none⟩,
      ⟨"ulwgl-egs", "Hydrangea", none, none⟩, ⟨"ulwgl-400", "Portal", none, none⟩,
      ⟨"ulwgl-570", "Dota 2 (alt)", some "dota", none⟩,
      ⟨"ulwgl-570", "Dota 2 (old)", some "570", none⟩]
    let fixIds := TextSet.ofList ["egs", "999"]
    ∃ r, reconcile index {} (Catalog.group entries) fixIds = .ok r ∧
      r.withoutFixes = [⟨"Portal", "400"⟩, ⟨"Dota 2", "570"⟩, ⟨"Dota 2 (alt)", "570"⟩] ∧
      r.nonLibrary = [⟨"Dota 2", "570"⟩, ⟨"Hydrangea", "egs"⟩] ∧
      r.missingLibraryRecords = [⟨"Portal", "400"⟩] ∧
      r.catalogAssociations = [⟨2, "gog", "dota", "Dota 2 (GOG)"⟩] ∧
      (reconcile index.logged {} (Catalog.group entries) fixIds).runFrom [] =
        (.ok r, [.record "steam" "400", .record "steam" "570", .libraryGames dota,
          .providerGames game, .record "steam" "999"]) := by
  intro dota game index entries fixIds
  obtain ⟨-, -, r, hr, hwithout, hnon, hmissing, hassociated, hlog⟩ :=
    reconcile_contributions (Listing.index_neverFails _) {} entries fixIds
  refine ⟨r, hr, hwithout.trans ?_, hnon.trans ?_, hmissing.trans ?_, hassociated.trans ?_,
    hlog.trans (congrArg (Prod.mk _) ?_)⟩
  · decide +kernel
  · decide +kernel
  · decide +kernel
  · decide +kernel
  · decide +kernel

end GameFixes
