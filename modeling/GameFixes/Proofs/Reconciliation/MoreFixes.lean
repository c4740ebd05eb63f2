import GameFixes.Proofs.Reconciliation.Catalog

/-!
# Reconciliations with more fixes

What a reconciliation depends on the fixes for, over any catalog. Which entries are looked at does
not depend on them, so the reports of two sets of fixes, one inside the other, are told from each
other by filters.

* `findingsOf`: what one entry that is looked at adds to a report;
* `exists_reconcile_lookedAt`: a report over any catalog, from its entries that are looked at and
  the fixes that these do not name;
* `unmatchedFixes_eq_filter`: of two sets of fixes, those of the smaller one that no entry names;
* `flatMap_rowsOf_filter`: the rows for these are told apart by their identifiers;
* `reconcile_moreFixes`: the reports of two sets of fixes.
-/

namespace GameFixes

open Provider

/-- What is found under a slug is a game with that slug. -/
def Provider.Index.FindsSlug (index : Index) : Prop :=
  ∀ provider slug g, index.findProviderGame provider slug = .ok (some g) → g.slug = slug

/-- A row is for a fix of a set: its identifier is that of the fix with the prefix in front. -/
def AssociationRow.IsFor (options : Options) (fixIds : TextSet) (row : AssociationRow) : Prop :=
  ∃ id ∈ fixIds.toList, row.catalogId = options.idPrefix ++ id

instance (options : Options) (fixIds : TextSet) :
    DecidablePred (AssociationRow.IsFor options fixIds) :=
  fun _ => inferInstanceAs (Decidable (∃ id ∈ fixIds.toList, _))

theorem Provider.Listing.index_findsSlug (l : Listing) : l.index.FindsSlug :=
  fun provider slug g hg => (l.index_findsAsked provider slug g hg).2

section

variable (index : Index) (options : Options)

/-- What an entry that is looked at adds to a report. -/
def findingsOf (fixIds : TextSet) (e : Catalog.Entry) : Contribution :=
  let miss := missOf options e
  let record := index.found? options.libraryProvider miss.libraryId
  { withoutFixes := if miss.libraryId ∈ fixIds.toList then [] else [miss]
    nonLibrary := if mayBeInLibrary options e then [] else [miss]
    missingLibraryRecords := if mayBeInLibrary options e ∧ record = none then [miss] else []
    catalogAssociations :=
      if mayBeInLibrary options e then record.elim [] (associatedRecords index options) else [] }

end

/-! ### One reconciliation -/

namespace Contribution

variable {α : Type}

theorem along_cons (c : α → Contribution) (a : α) (l : List α) :
    along c (a :: l) = c a ++ along c l := rfl

theorem along_singleton (c : α → Contribution) (a : α) : along c [a] = c a :=
  append_empty (c a)

theorem along_flatMap {β : Type} (c : β → Contribution) (f : α → List β) (l : List α) :
    along (fun a => along c (f a)) l = along c (l.flatMap f) := by
  ext1 <;> exact List.flatMap_assoc.symm

end Contribution

section

variable {index : Index} {options : Options} {fixIds : TextSet} {e : Catalog.Entry}

theorem findingsOf_of_used (h : mayBeInLibrary options e = true) :
    findingsOf index options fixIds e =
      ({ withoutFixes := if (missOf options e).libraryId ∈ fixIds.toList then []
          else [missOf options e] } : Contribution) ++
        { missingLibraryRecords :=
            if index.found? options.libraryProvider (missOf options e).libraryId = none
            then [missOf options e] else []
          catalogAssociations :=
            (index.found? options.libraryProvider (missOf options e).libraryId).elim []
              (associatedRecords index options) } := by
  unfold findingsOf
  simp only [h, if_true, true_and]
  ext1
  · exact (List.append_nil _).symm
  · rfl
  · rfl
  · rfl

theorem findingsOf_of_passed (h : mayBeInLibrary options e = false) :
    findingsOf index options fixIds e =
      ({ withoutFixes := if (missOf options e).libraryId ∈ fixIds.toList then []
          else [missOf options e] } : Contribution) ++ { nonLibrary := [missOf options e] } := by
  unfold findingsOf
  simp only [h, Bool.false_eq_true, if_false, false_and]
  ext1
  · exact (List.append_nil _).symm
  · rfl
  · rfl
  · rfl

/-- An entry adds the same wherever it stands among those that are looked at. -/
theorem exists_entryFindings_lookedAt (h : index.NeverFails) (fixIds : TextSet)
    (es : List Catalog.Entry) :
    ∃ r, entryFindings index options fixIds es = .ok r ∧
      r.Shows (.along (findingsOf index options fixIds) (lookedAt options es)) := by
  refine exists_entryFindings_of (P := fun es r =>
    r.Shows (.along (findingsOf index options fixIds) (lookedAt options es))) ?nil ?used ?passed es
  case nil => exact ⟨rfl, rfl, rfl, rfl⟩
  case used =>
    intro e es hmay
    obtain ⟨events, hr⟩ := exists_libraryFindings h options (missOf options e)
    refine ⟨_, hr, ?_⟩
    rw [lookedAt, if_pos hmay, Contribution.along_singleton, findingsOf_of_used hmay]
    exact (fixFindings_shows fixIds _).append ⟨rfl, rfl, rfl, rfl⟩
  case passed =>
    intro e es r hmay hshows
    rw [lookedAt, if_neg (by rw [hmay]; exact Bool.false_ne_true), Contribution.along_cons,
      findingsOf_of_passed hmay]
    exact ((fixFindings_shows fixIds _).append ⟨rfl, rfl, rfl, rfl⟩).append hshows

/-- To the report about a catalog the entries that are looked at add their findings, and so do the
fixes that none of them names. -/
theorem exists_reconcile_lookedAt (h : index.NeverFails) (options : Options)
    (catalog : TextMap (List Catalog.Entry)) (fixIds : TextSet) :
    ∃ r, reconcile index options catalog fixIds = .ok r ∧
      r.Shows (.along (findingsOf index options fixIds)
        (catalog.values.flatMap (lookedAt options))) ∧
      r.fixesNotFound = (unmatchedFixes options catalog fixIds).filter
        (fun id => index.found? options.libraryProvider id = none) ∧
      r.unmatchedFixRows =
        (unmatchedFixes options catalog fixIds).flatMap (rowsOf index options) := by
  obtain ⟨cs, fs, events, hr, hcs, hfs⟩ := exists_reconcile catalog
    (Q := fun _ r => r.Shows {})
    (fun es _ => exists_entryFindings_lookedAt h fixIds es) fun id _ => by
      obtain ⟨events, hf⟩ := exists_unmatchedFindings h options id
      exact ⟨_, hf, rfl, rfl, rfl, rfl⟩
  have hshows := (total_shows hcs).append (total_shows hfs)
  rw [Contribution.along_empty, Contribution.append_empty, Contribution.along_flatMap] at hshows
  obtain ⟨r, hr', hfixes⟩ := reconcile_catalog_of_neverFails h options catalog fixIds
  obtain rfl := Except.ok.inj (hr.symm.trans hr')
  exact ⟨_, hr, ⟨hshows.withoutFixes, hshows.nonLibrary, hshows.missingLibraryRecords,
    hshows.catalogAssociations⟩, hfixes⟩

end

/-! ### Two sets of fixes -/

section

variable {index : Index} {options : Options} {fixIds more : TextSet}

/-- A set inside another has the elements of the other that are its own, in their order. -/
theorem TextSet.toList_eq_filter (h : fixIds.toList ⊆ more.toList) :
    fixIds.toList = more.toList.filter (· ∈ fixIds.toList) := by
  have irrefl : Std.Irrefl fun a b : String => a < b := ⟨String.lt_irrefl⟩
  have hpairwise := TextMap.keys_pairwise fixIds
  refine hpairwise.eq_of_mem_iff ((TextMap.keys_pairwise more).filter _) fun id => ?_
  rw [List.mem_filter, decide_eq_true_iff]
  exact ⟨fun hid => ⟨h hid, hid⟩, fun hid => hid.2⟩

/-- Of two sets of fixes, the fixes of the smaller one that no entry names. -/
theorem unmatchedFixes_eq_filter (h : fixIds.toList ⊆ more.toList)
    (catalog : TextMap (List Catalog.Entry)) :
    unmatchedFixes options catalog fixIds =
      (unmatchedFixes options catalog more).filter (· ∈ fixIds.toList) := by
  unfold unmatchedFixes
  conv_lhs => rw [TextSet.toList_eq_filter h]
  exact List.filter_comm _ _ _

theorem catalogId_of_mem_rowsOf (h : index.NeverFails) (hslug : index.FindsSlug) {id : String}
    {row : AssociationRow} (hrow : row ∈ rowsOf index options id) :
    row.catalogId = options.idPrefix ++ id := by
  unfold rowsOf at hrow
  cases hg : index.found? options.libraryProvider id with
  | none => simp [hg] at hrow
  | some g =>
    rw [hg, Option.elim_some] at hrow
    obtain ⟨record, -, rfl⟩ := List.mem_map.1 hrow
    have hid : g.slug = id := hslug _ _ g (by rw [h.findProviderGame, hg])
    rw [rowOf, hid]

/-- Of the rows that fixes lead to, those for the fixes of a set. -/
theorem flatMap_rowsOf_filter (h : index.NeverFails) (hslug : index.FindsSlug)
    (fixIds : TextSet) (ids : List String) :
    (ids.filter (· ∈ fixIds.toList)).flatMap (rowsOf index options) =
      (ids.flatMap (rowsOf index options)).filter (·.IsFor options fixIds) := by
  have hfor {id : String} {row : AssociationRow} (hrow : row ∈ rowsOf index options id) :
      row.IsFor options fixIds ↔ id ∈ fixIds.toList := by
    simp only [AssociationRow.IsFor, catalogId_of_mem_rowsOf h hslug hrow, String.append_right_inj,
      exists_eq_right']
  induction ids with
  | nil => rfl
  | cons id ids ih =>
    rw [List.flatMap_cons, List.filter_append, ← ih]
    by_cases hid : id ∈ fixIds.toList
    · have hall : (rowsOf index options id).filter (·.IsFor options fixIds) =
          rowsOf index options id :=
        List.filter_eq_self.2 fun row hrow => decide_eq_true ((hfor hrow).2 hid)
      rw [List.filter_cons_of_pos (by simpa using hid), List.flatMap_cons, hall]
    · have hnone : (rowsOf index options id).filter (·.IsFor options fixIds) = [] :=
        List.filter_eq_nil_iff.2 fun row hrow => by rwa [decide_eq_true_iff, hfor hrow]
      rw [List.filter_cons_of_neg (by simpa using hid), hnone, List.nil_append]

/-- An entry has no fix among more of them if it has none among fewer, and none is added for it. -/
theorem findingsOf_withoutFixes_filter (h : fixIds.toList ⊆ more.toList) (e : Catalog.Entry) :
    ((findingsOf index options fixIds e).withoutFixes.filter fun miss =>
      miss.libraryId ∉ more.toList) = (findingsOf index options more e).withoutFixes := by
  change List.filter _ (if (missOf options e).libraryId ∈ fixIds.toList then [] else _) =
    if (missOf options e).libraryId ∈ more.toList then [] else _
  by_cases hmore : (missOf options e).libraryId ∈ more.toList
  · rw [if_pos hmore]
    split_ifs with hfix
    · rfl
    · simp [hmore]
  · rw [if_neg hmore, if_neg fun hfix => hmore (h hfix)]
    simp [hmore]

/-- What the fixes can change in a report. With more fixes the entries that these are for are left
out of those without a fix, and nothing else changes in what is said of the catalog. What is said of
the fixes is said of each by itself: the fewer fixes are those that the larger set has among them.
The rows tell the fixes apart by their identifiers, if the index finds what it is asked for. -/
theorem reconcile_moreFixes (h : index.NeverFails) (options : Options)
    (catalog : TextMap (List Catalog.Entry)) (hmore : fixIds.toList ⊆ more.toList) :
    ∃ r r', reconcile index options catalog fixIds = .ok r ∧
      reconcile index options catalog more = .ok r' ∧
      r.nonLibrary = r'.nonLibrary ∧ r.missingLibraryRecords = r'.missingLibraryRecords ∧
      r.catalogAssociations = r'.catalogAssociations ∧
      r'.withoutFixes = r.withoutFixes.filter (fun miss => miss.libraryId ∉ more.toList) ∧
      r.fixesNotFound = r'.fixesNotFound.filter (· ∈ fixIds.toList) ∧
      (index.FindsSlug →
        r.unmatchedFixRows = r'.unmatchedFixRows.filter (·.IsFor options fixIds)) := by
  obtain ⟨r, hr, hshows, hn, hu⟩ := exists_reconcile_lookedAt h options catalog fixIds
  obtain ⟨r', hr', hshows', hn', hu'⟩ := exists_reconcile_lookedAt h options catalog more
  refine ⟨r, r', hr, hr', ?_, ?_, ?_, ?_, ?_, fun hslug => ?_⟩
  · rw [hshows.nonLibrary, hshows'.nonLibrary]
    rfl
  · rw [hshows.missingLibraryRecords, hshows'.missingLibraryRecords]
    rfl
  · rw [hshows.catalogAssociations, hshows'.catalogAssociations]
    rfl
  · rw [hshows.withoutFixes, hshows'.withoutFixes]
    unfold Contribution.along
    rw [List.filter_flatMap]
    exact List.flatMap_congr fun e _ => (findingsOf_withoutFixes_filter hmore e).symm
  · rw [hn, hn', unmatchedFixes_eq_filter hmore]
    exact List.filter_comm _ _ _
  · rw [hu, hu', unmatchedFixes_eq_filter hmore, flatMap_rowsOf_filter h hslug]

end

/-- One fix, and then three more: of an entry that was without a fix, of another game with a record,
and of a game without one. -/
theorem reconcile_moreFixes_threeMore :
    let listing : Listing :=
      { providerGames := [⟨1, "steam", "316720", "Grim Fandango"⟩,
          ⟨2, "gog", "1207658918", "Grim Fandango (GOG)"⟩, ⟨3, "steam", "570", "Dota 2"⟩,
          ⟨4, "egs", "dota", "Dota 2 (Epic)"⟩]
        libraryGames := [⟨1, "Grim Fandango", "grim-fandango"⟩, ⟨2, "Dota 2", "dota-2"⟩]
        links := [(1, 1), (1, 2), (2, 3), (2, 4)] }
    let catalog := TextMap.ofList [("400", [⟨"ulwgl-400", "Portal", none, none⟩]),
      ("egs", [⟨"ulwgl-egs", "Hydrangea", none, none⟩])]
    let fixIds := TextSet.ofList ["570"]
    let more := TextSet.ofList ["316720", "400", "570", "999"]
    ∃ r r', reconcile listing.index {} catalog fixIds = .ok r ∧
      reconcile listing.index {} catalog more = .ok r' ∧
      r'.nonLibrary = [⟨"Hydrangea", "egs"⟩] ∧ r'.missingLibraryRecords = [⟨"Portal", "400"⟩] ∧
      r.withoutFixes = [⟨"Portal", "400"⟩, ⟨"Hydrangea", "egs"⟩] ∧
      r'.withoutFixes = [⟨"Hydrangea", "egs"⟩] ∧
      r'.fixesNotFound = ["999"] ∧ r.fixesNotFound = [] ∧
      r'.unmatchedFixRows = [⟨"Grim Fandango (GOG)", "gog", "1207658918", "ulwgl-316720"⟩,
        ⟨"Dota 2 (Epic)", "egs", "dota", "ulwgl-570"⟩] ∧
      r.unmatchedFixRows = [⟨"Dota 2 (Epic)", "egs", "dota", "ulwgl-570"⟩] := by
  intro listing catalog fixIds more
  have hmore : fixIds.toList ⊆ more.toList := by decide +kernel
  obtain ⟨r, r', hr, hr', hnon, hmissing, -, hwithout, hnotFound, hrows⟩ :=
    reconcile_moreFixes listing.index_neverFails {} catalog hmore
  obtain ⟨_, hfew, hshows, -⟩ :=
    exists_reconcile_lookedAt listing.index_neverFails {} catalog fixIds
  obtain ⟨_, hmany, -, hn, hu⟩ :=
    exists_reconcile_lookedAt listing.index_neverFails {} catalog more
  obtain rfl := Except.ok.inj (hr.symm.trans hfew)
  obtain rfl := Except.ok.inj (hr'.symm.trans hmany)
  have hw : r.withoutFixes = [⟨"Portal", "400"⟩, ⟨"Hydrangea", "egs"⟩] :=
    hshows.withoutFixes.trans (by decide +kernel)
  have hn' : r'.fixesNotFound = ["999"] := hn.trans (by decide +kernel)
  have hu' : r'.unmatchedFixRows = [⟨"Grim Fandango (GOG)", "gog", "1207658918", "ulwgl-316720"⟩,
      ⟨"Dota 2 (Epic)", "egs", "dota", "ulwgl-570"⟩] := hu.trans (by decide +kernel)
  refine ⟨r, r', hr, hr', ?_, ?_, hw, ?_, hn', ?_, hu', ?_⟩
  · exact hnon.symm.trans (hshows.nonLibrary.trans (by decide +kernel))
  · exact hmissing.symm.trans (hshows.missingLibraryRecords.trans (by decide +kernel))
  · rw [hwithout, hw]
    decide +kernel
  · rw [hnotFound, hn']
    decide +kernel
  · rw [hrows listing.index_findsSlug, hu']
    decide +kernel

end GameFixes
