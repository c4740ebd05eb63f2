import GameFixes.Command.Run
import GameFixes.Proofs.Csv
import GameFixes.Proofs.Provider.History
import GameFixes.Proofs.Reconciliation.Fixes
import GameFixes.Provider.Store

/-!
# The rows of a reconciliation

The rows for fixes are meant for the catalog. When entries with their identifiers are added there,
the fixes that led to rows have entries, and nothing else changes. The rows are written as lines of
comma separated fields, and nothing is done about characters of a field that mean something there.

* `Publishes rows added`: entries are added for rows;
* `unnamedFixes_published`: the fixes that stay without an entry are those that led to no row;
* `reconcile_published`: a second reconciliation has no rows, and misses the same records;
* `rowsText rows`: what is written for rows, and `AssociationRow.record`: the fields of one;
* `read_rowsText_iff`: rows are read back if and only if no field has such a character.
-/

namespace GameFixes

open Provider

/-! ### Publishing rows -/

theorem Provider.Store.index_neverFails (s : Store) : s.index.NeverFails :=
  ⟨fun _ _ => ⟨_, rfl⟩, fun _ => ⟨_, rfl⟩, fun _ => ⟨_, rfl⟩⟩

theorem Provider.Store.index_findsAsked (s : Store) : s.index.FindsAsked :=
  Index.findsAsked_of_find? fun _ _ => rfl

/-- Entries are added for rows: each row gets an entry with its identifier, maybe several, and no
other identifier gets one. -/
structure Publishes (rows : List AssociationRow) (added : List Catalog.Entry) : Prop where
  covers : ∀ row ∈ rows, ∃ e ∈ added, e.catalogId = row.catalogId
  sound : ∀ e ∈ added, ∃ row ∈ rows, e.catalogId = row.catalogId

/-- An identifier that is written with the prefix is read back, also when it begins with the prefix
itself. -/
@[simp] theorem plainId_append (idPrefix id : String) : plainId idPrefix (idPrefix ++ id) = id := by
  simp [plainId, Text.withoutStart]

section

variable {index : Index} {options : Options} {entries added extended : List Catalog.Entry}
  {fixIds : TextSet}

/-- The fixes that added entries name are those that led to a row. -/
theorem Publishes.names_iff {ids : List String}
    (hp : Publishes (ids.flatMap (fixRows index options)) added) {id : String} :
    (∃ e ∈ added, plainId options.idPrefix e.catalogId = id) ↔
      id ∈ ids ∧ fixRows index options id ≠ [] := by
  constructor
  · rintro ⟨e, he, rfl⟩
    obtain ⟨row, hrow, heq⟩ := hp.sound e he
    obtain ⟨id, hid, hrow⟩ := List.mem_flatMap.1 hrow
    rw [heq, catalogId_eq_of_mem_fixRows hrow, plainId_append]
    exact ⟨hid, List.ne_nil_of_mem hrow⟩
  · rintro ⟨hid, hne⟩
    obtain ⟨row, hrow⟩ := List.exists_mem_of_ne_nil _ hne
    obtain ⟨e, he, heq⟩ := hp.covers row (List.mem_flatMap.2 ⟨id, hid, hrow⟩)
    refine ⟨e, he, ?_⟩
    rw [heq, catalogId_eq_of_mem_fixRows hrow, plainId_append]

/-- Of the fixes without an entry those that led to no row stay without. -/
theorem unnamedFixes_published
    (hp : Publishes ((unnamedFixes options entries fixIds).flatMap (fixRows index options)) added)
    (he : extended.Perm (entries ++ added)) :
    unnamedFixes options extended fixIds =
      (unnamedFixes options entries fixIds).filter (fixRows index options · = []) := by
  have hsplit : unnamedFixes options extended fixIds =
      (unnamedFixes options entries fixIds).filter
        (fun id => ∀ e ∈ added, plainId options.idPrefix e.catalogId ≠ id) := by
    simp only [unnamedFixes, List.filter_filter, he.mem_iff, List.forall_mem_append,
      Bool.decide_and, Bool.and_comm]
  rw [hsplit]
  refine List.filter_congr fun id hid => decide_eq_decide.2 ?_
  rw [← not_iff_not]
  push Not
  rw [hp.names_iff, and_iff_right hid]

theorem fixRows_of_found?_eq_none {id : String}
    (h : index.found? options.libraryProvider id = none) : fixRows index options id = [] := by
  rw [fixRows, h]

end

/-- Publishing the rows of a report closes the gap: once the catalog has entries for them, wherever
they stand in it, a reconciliation reports no rows, and the fixes without a record are the same. -/
theorem reconcile_published (s : Store) (options : Options) (entries : List Catalog.Entry)
    (fixIds : TextSet) :
    ∃ r, reconcile s.index options (Catalog.group entries) fixIds = .ok r ∧
      ∀ added extended, Publishes r.unmatchedFixRows added → extended.Perm (entries ++ added) →
        ∃ r', reconcile s.index options (Catalog.group extended) fixIds = .ok r' ∧
          r'.unmatchedFixRows = [] ∧ r'.fixesNotFound = r.fixesNotFound := by
  obtain ⟨r, hr, hn, hu⟩ :=
    reconcile_of_neverFails s.index_neverFails s.index_findsAsked options entries fixIds
  refine ⟨r, hr, fun added extended hp he => ?_⟩
  obtain ⟨r', hr', hn', hu'⟩ :=
    reconcile_of_neverFails s.index_neverFails s.index_findsAsked options extended fixIds
  rw [hu] at hp
  have hstay := unnamedFixes_published hp he
  refine ⟨r', hr', ?_, ?_⟩
  · rw [hu', hstay, List.flatMap_eq_nil_iff]
    intro id hid
    simpa using (List.mem_filter.1 hid).2
  · rw [hn', hn, hstay, List.filter_filter]
    refine List.filter_congr fun id _ => ?_
    rw [← Bool.decide_and]
    exact decide_eq_decide.2 (and_iff_left_of_imp fixRows_of_found?_eq_none)

/-- An entry for the row of a game that was imported with records at two stores, put in front of
the catalog. -/
theorem reconcile_published_inFront :
    let s := (Store.importRecords {} [⟨"Grim Fandango", "grim-fandango",
      [⟨"steam", "316720", none⟩, ⟨"gog", "1207658918", some "Grim Fandango (GOG)"⟩]⟩]).1
    let fixIds := TextSet.ofList ["999", "400", "316720"]
    let entry : Catalog.Entry := ⟨"ulwgl-400", "Portal", none, some "steam"⟩
    let published : Catalog.Entry := ⟨"ulwgl-316720", "Grim Fandango", none, some "gog"⟩
    ∃ r, reconcile s.index {} (Catalog.group [entry]) fixIds = .ok r ∧
      r.unmatchedFixRows =
        [⟨"Grim Fandango (GOG)", "gog", "1207658918", "ulwgl-316720"⟩] ∧
      ∃ r', reconcile s.index {} (Catalog.group [published, entry]) fixIds = .ok r' ∧
        r'.unmatchedFixRows = [] ∧ r'.fixesNotFound = ["999"] := by
  intro s fixIds entry published
  obtain ⟨r, hr, hpublished⟩ := reconcile_published s {} [entry] fixIds
  obtain ⟨_, hr₁, hnotFound, hrows⟩ :=
    reconcile_of_neverFails s.index_neverFails s.index_findsAsked {} [entry] fixIds
  obtain rfl := Except.ok.inj (hr.symm.trans hr₁)
  have hunnamed : unnamedFixes {} [entry] fixIds = ["316720", "999"] := by decide +kernel
  have hfound : fixRows s.index {} "316720" =
      [⟨"Grim Fandango (GOG)", "gog", "1207658918", "ulwgl-316720"⟩] := by
    have hfind : s.index.found? defaultLibraryProvider "316720" =
        some ⟨1, "steam", "316720", "Grim Fandango"⟩ := by decide +kernel
    have hgames : s.index.libraryGames ⟨1, "steam", "316720", "Grim Fandango"⟩ =
        [⟨1, "Grim Fandango", "grim-fandango"⟩] := by decide +kernel
    have hrecords : s.index.providerGames ⟨1, "Grim Fandango", "grim-fandango"⟩ =
        [⟨1, "steam", "316720", "Grim Fandango"⟩,
          ⟨2, "gog", "1207658918", "Grim Fandango (GOG)"⟩] :=
      List.mergeSort_of_pairwise (by decide +kernel)
    simp only [fixRows, associatedRecords, hfind, hgames, hrecords]
    decide +kernel
  have hmissed : fixRows s.index {} "999" = [] := by decide +kernel
  rw [hunnamed, List.flatMap_cons, List.flatMap_cons, hfound, hmissed] at hrows
  replace hnotFound : r.fixesNotFound = ["999"] := hnotFound.trans (by decide +kernel)
  have hpublishes : Publishes r.unmatchedFixRows [published] := by
    rw [hrows]
    exact ⟨by simp [published], by simp [published]⟩
  obtain ⟨r', hr', hrows', hnotFound'⟩ :=
    hpublished [published] [published, entry] hpublishes (.swap _ _ _)
  exact ⟨r, hr, hrows, r', hr', hrows', hnotFound'.trans hnotFound⟩

/-! ### Rows as text -/

/-- The fields of a row, the last two of them empty. -/
def AssociationRow.record (r : AssociationRow) : Csv.Record :=
  [r.name.toList, r.provider.toList, r.slug.toList, r.catalogId.toList, [], []]

/-- What is written for rows. -/
def rowsText (rows : List AssociationRow) : String :=
  Command.textOfLines (rows.map AssociationRow.csvLine)

theorem toList_csvLine (r : AssociationRow) : r.csvLine.toList = Csv.line r.record := by
  simp [AssociationRow.csvLine, AssociationRow.record, Csv.line]

theorem toList_rowsText (rows : List AssociationRow) :
    (rowsText rows).toList = Text.endLines ((rows.map AssociationRow.record).map Csv.line) := by
  simp [rowsText, Command.textOfLines, Text.endLines, List.flatMap_map, toList_csvLine]

theorem isPlain_record_iff {r : AssociationRow} : (∀ f ∈ r.record, Csv.IsPlain f) ↔
    ∀ text ∈ [r.name, r.provider, r.slug, r.catalogId], Csv.IsPlain text.toList := by
  have hnil : Csv.IsPlain [] := by simp [Csv.IsPlain]
  simp [AssociationRow.record, hnil]

/-- **The rows that are written are read back as one record with the fields of each if and only if
no name, provider, slug or identifier in them has a comma, a quote or a line break.** -/
theorem read_rowsText_iff (rows : List AssociationRow) :
    Csv.read .record (rowsText rows).toList = some (rows.map AssociationRow.record) ↔
      ∀ r ∈ rows, ∀ text ∈ [r.name, r.provider, r.slug, r.catalogId],
        Csv.IsPlain text.toList := by
  have hne : ∀ r ∈ rows.map AssociationRow.record, r ≠ [] := by simp [AssociationRow.record]
  rw [toList_rowsText, Csv.read_endLines_iff hne, List.forall_mem_map]
  exact forall₂_congr fun r _ => isPlain_record_iff

/-- Some imported names have a comma, and the row of such a game has one field too many. -/
theorem not_forall_read_rowsText : ¬ ∀ (sets : List RecordSet) (options : Options)
    (entries : List Catalog.Entry) (fixIds : TextSet) (r : Report),
    reconcile (Store.imports sets).index options (Catalog.group entries) fixIds = .ok r →
      Csv.read .record (rowsText r.unmatchedFixRows).toList =
        some (r.unmatchedFixRows.map AssociationRow.record) := by
  intro h
  let s := Store.imports [[⟨"Worms, Reloaded", "worms",
    [⟨"steam", "22600", none⟩, ⟨"gog", "1207658963", none⟩]⟩]]
  obtain ⟨r, hr, -, hrows⟩ := reconcile_of_neverFails s.index_neverFails s.index_findsAsked {} []
    (TextSet.ofList ["22600"])
  have hunnamed : unnamedFixes {} [] (TextSet.ofList ["22600"]) = ["22600"] := by decide +kernel
  have hfound : fixRows s.index {} "22600" =
      [⟨"Worms, Reloaded", "gog", "1207658963", "ulwgl-22600"⟩] := by
    have hrecords : s.index.providerGames ⟨1, "Worms, Reloaded", "worms"⟩ =
        [⟨1, "steam", "22600", "Worms, Reloaded"⟩,
          ⟨2, "gog", "1207658963", "Worms, Reloaded"⟩] :=
      List.mergeSort_of_pairwise (by decide +kernel)
    have hgames : s.index.libraryGames ⟨1, "steam", "22600", "Worms, Reloaded"⟩ =
        [⟨1, "Worms, Reloaded", "worms"⟩] := by decide +kernel
    have hfind : s.index.found? defaultLibraryProvider "22600" =
        some ⟨1, "steam", "22600", "Worms, Reloaded"⟩ := by decide +kernel
    simp only [fixRows, associatedRecords, hfind, hgames, hrecords]
    decide +kernel
  have hread := h _ {} [] (TextSet.ofList ["22600"]) r hr
  rw [hrows, hunnamed, List.flatMap_singleton, hfound] at hread
  exact absurd hread (by decide +kernel)

end GameFixes
