import GameFixes.Proofs.Catalog.Grouping
import GameFixes.Proofs.Text
import GameFixes.Reconcile

/-!
# The fixes of a reconciliation

What a reconciliation finds about the fixes, said from the entries of the catalog and the answers of
the index:

* `unnamedFixes`: the fixes that no entry of the catalog names;
* `fixRows`: the rows that a fix leads to, over the first library game of its record;
* `exists_entryFindings_of`: what holds of the findings about the entries of one identifier;
* `exists_reconcile`: a report is put together from the findings about entries and fixes;
* `reconcile_of_neverFails`: a reconciliation over an index that never fails has a report, and what
  that says about the fixes;
* `reconcile_fixes`: every fix is accounted for.
-/

namespace GameFixes

open Provider

/-! ### Answers of an index -/

namespace Provider.Index

variable (index : Index)

/-- The game that a provider has under a name, if the index finds one. -/
def found? (provider slug : String) : Option ProviderGame :=
  (index.findProviderGame provider slug).toOption.join

/-- The library games that the index associates with a provider game. -/
def libraryGames (g : ProviderGame) : List LibraryGame :=
  (index.libraryGamesFor g).toOption.getD []

/-- The provider games that the index associates with a library game. -/
def providerGames (game : LibraryGame) : List ProviderGame :=
  (index.providerGamesFor game).toOption.getD []

/-- No lookup fails. -/
structure NeverFails : Prop where
  find : ∀ provider slug, ∃ g, index.findProviderGame provider slug = .ok g
  library : ∀ g, ∃ games, index.libraryGamesFor g = .ok games
  provider : ∀ game, ∃ records, index.providerGamesFor game = .ok records

/-- What is found under a provider and a name is a game of that provider with that name. -/
def FindsAsked : Prop :=
  ∀ provider slug g, index.findProviderGame provider slug = .ok (some g) →
    g.provider = provider ∧ g.slug = slug

variable {index}

theorem NeverFails.findProviderGame (h : index.NeverFails) (provider slug : String) :
    index.findProviderGame provider slug = .ok (index.found? provider slug) := by
  obtain ⟨g, hg⟩ := h.find provider slug
  rw [found?, hg]
  rfl

theorem NeverFails.libraryGamesFor (h : index.NeverFails) (g : ProviderGame) :
    index.libraryGamesFor g = .ok (index.libraryGames g) := by
  obtain ⟨games, hg⟩ := h.library g
  rw [libraryGames, hg]
  rfl

theorem NeverFails.providerGamesFor (h : index.NeverFails) (game : LibraryGame) :
    index.providerGamesFor game = .ok (index.providerGames game) := by
  obtain ⟨records, hr⟩ := h.provider game
  rw [providerGames, hr]
  rfl

theorem findsAsked_of_find? {games : List ProviderGame}
    (h : ∀ provider slug, index.findProviderGame provider slug =
      .ok (games.find? fun g => g.provider = provider && g.slug = slug)) : index.FindsAsked := by
  intro provider slug g hg
  rw [h] at hg
  simpa using List.find?_some (Except.ok.inj hg)

theorem FindsAsked.slug_eq (hf : index.FindsAsked) (h : index.NeverFails)
    {provider slug : String} {g : ProviderGame} (hg : index.found? provider slug = some g) :
    g.slug = slug :=
  (hf provider slug g (by rw [h.findProviderGame, hg])).2

end Provider.Index

theorem Provider.Listing.index_neverFails (l : Listing) : l.index.NeverFails :=
  ⟨fun _ _ => ⟨_, rfl⟩, fun _ => ⟨_, rfl⟩, fun _ => ⟨_, rfl⟩⟩

theorem Provider.Listing.index_findsAsked (l : Listing) : l.index.FindsAsked :=
  Index.findsAsked_of_find? fun _ _ => rfl

/-! ### What a fix leads to -/

/-- The fixes that no entry of a catalog names, in ascending order. -/
def unnamedFixes (options : Options) (entries : List Catalog.Entry) (fixIds : TextSet) :
    List String :=
  fixIds.toList.filter fun id => ∀ e ∈ entries, plainId options.idPrefix e.catalogId ≠ id

/-- The records of the first library game of a record, in the order of the index, without those of
the library's provider and those of no interest. -/
def associatedRecords (index : Index) (options : Options) (g : ProviderGame) : List ProviderGame :=
  match index.libraryGames g with
  | [] => []
  | first :: _ => (index.providerGames first).filter fun r =>
      r.provider ≠ options.libraryProvider ∧ r.provider ≠ "igdb"

/-- The rows that a fix leads to. -/
def fixRows (index : Index) (options : Options) (id : String) : List AssociationRow :=
  match index.found? options.libraryProvider id with
  | none => []
  | some g => (associatedRecords index options g).map fun r =>
      ⟨r.name, r.provider, r.slug, options.idPrefix ++ id⟩

/-- The rows that a fix leads to, with the slug of its record for the fix. -/
def rowsOf (index : Index) (options : Options) (id : String) : List AssociationRow :=
  (index.found? options.libraryProvider id).elim [] fun g =>
    (associatedRecords index options g).map (rowOf options g)

theorem unnamedFixes_pairwise (options : Options) (entries : List Catalog.Entry)
    (fixIds : TextSet) : (unnamedFixes options entries fixIds).Pairwise (· < ·) :=
  (TextMap.keys_pairwise fixIds).filter _

theorem catalogId_eq_of_mem_fixRows {index : Index} {options : Options} {id : String}
    {row : AssociationRow} (h : row ∈ fixRows index options id) :
    row.catalogId = options.idPrefix ++ id := by
  unfold fixRows at h
  split at h
  · cases h
  · obtain ⟨r, -, rfl⟩ := List.mem_map.1 h
    rfl

/-- Every entry that is looked at is one of the entries of the identifier, and of some entries one
is looked at. -/
theorem lookedAt_spec (options : Options) (es : List Catalog.Entry) :
    lookedAt options es ⊆ es ∧ (es ≠ [] → lookedAt options es ≠ []) := by
  induction es with
  | nil => exact ⟨List.Subset.refl _, id⟩
  | cons e es ih =>
    rw [lookedAt]
    split_ifs with hmay
    · exact ⟨List.cons_subset_cons e (List.nil_subset es), fun _ => List.cons_ne_nil _ _⟩
    · exact ⟨List.cons_subset_cons e ih.1, fun _ => List.cons_ne_nil _ _⟩

/-- The identifiers of a grouped catalog that are seen are those of all its entries. -/
theorem mem_seenIds_group {options : Options} {entries : List Catalog.Entry} {id : String} :
    id ∈ seenIds options (Catalog.group entries) ↔
      ∃ e ∈ entries, plainId options.idPrefix e.catalogId = id := by
  simp only [seenIds, Catalog.values_group, List.mem_map, List.mem_flatMap,
    Catalog.mem_keys_group_iff]
  constructor
  · rintro ⟨e, ⟨_, ⟨_, -, rfl⟩, he⟩, rfl⟩
    exact ⟨e, List.mem_of_mem_filter ((lookedAt_spec options _).1 he), rfl⟩
  · rintro ⟨e, he, rfl⟩
    have hne : entries.filter (·.catalogId = e.catalogId) ≠ [] :=
      List.ne_nil_of_mem (List.mem_filter.2 ⟨he, by simp⟩)
    obtain ⟨e', he'⟩ := List.exists_mem_of_ne_nil _ ((lookedAt_spec options _).2 hne)
    have hid : e'.catalogId = e.catalogId :=
      of_decide_eq_true (List.mem_filter.1 ((lookedAt_spec options _).1 he')).2
    exact ⟨e', ⟨_, ⟨e.catalogId, ⟨e, he, rfl⟩, rfl⟩, he'⟩, by rw [hid]⟩

/-- The fixes that no identifier of a grouped catalog names are those that no entry names. -/
theorem unmatchedFixes_group (options : Options) (entries : List Catalog.Entry)
    (fixIds : TextSet) : unmatchedFixes options (Catalog.group entries) fixIds =
      unnamedFixes options entries fixIds := by
  refine List.filter_congr fun id _ => ?_
  rw [Bool.eq_iff_iff, Bool.not_eq_true', ← Bool.not_eq_true, List.contains_iff_mem,
    decide_eq_true_iff, mem_seenIds_group]
  push Not
  rfl

theorem reports_eq (options : Options) (provider : String) :
    options.reports provider =
      decide (provider ≠ options.libraryProvider ∧ provider ≠ "igdb") := by
  rw [Bool.eq_iff_iff]
  simp [Options.reports, ignoredProviders]

theorem exists_associations {index : Index} (h : index.NeverFails) (options : Options)
    (context : String) (g : ProviderGame) : ∃ events,
      associations index options context g = .ok (associatedRecords index options g, events) := by
  unfold associations associatedRecords
  rw [h.libraryGamesFor]
  cases index.libraryGames g with
  | nil => exact ⟨_, rfl⟩
  | cons first games =>
    simp only [bind, Except.bind, h.providerGamesFor, pure, Except.pure, reports_eq]
    exact ⟨_, rfl⟩

/-! ### Reports -/

/-- The findings of several reports, one after another. -/
def Report.total (rs : List Report) : Report := rs.foldr (· ++ ·) {}

@[simp] theorem Report.fixesNotFound_append (r s : Report) :
    (r ++ s).fixesNotFound = r.fixesNotFound ++ s.fixesNotFound := rfl

@[simp] theorem Report.unmatchedFixRows_append (r s : Report) :
    (r ++ s).unmatchedFixRows = r.unmatchedFixRows ++ s.unmatchedFixRows := rfl

theorem Report.concat_map {m : Type → Type} [Monad m] {α β : Type} (f : β → m Report) (g : α → β)
    (l : List α) : Report.concat f (l.map g) = Report.concat (fun a => f (g a)) l := by
  induction l with
  | nil => rfl
  | cons a l ih => rw [List.map_cons, Report.concat, Report.concat, ih]

/-- Findings that are all made are put together. -/
theorem Report.exists_concat {α : Type} {P : α → Report → Prop} {f : α → Except Failure Report}
    {l : List α} (h : ∀ a ∈ l, ∃ r, f a = .ok r ∧ P a r) :
    ∃ rs, Report.concat f l = .ok (Report.total rs) ∧ List.Forall₂ P l rs := by
  induction l with
  | nil => exact ⟨[], rfl, .nil⟩
  | cons a l ih =>
    rw [List.forall_mem_cons] at h
    obtain ⟨⟨r, hr, hp⟩, hl⟩ := h
    obtain ⟨rs, hrs, hps⟩ := ih hl
    refine ⟨r :: rs, ?_, .cons hp hps⟩
    rw [Report.concat, hr, hrs]
    rfl

/-- A part of the findings that is put together like these. -/
theorem Report.part_total {α β : Type} {part : Report → List β} (hnil : part {} = [])
    (happend : ∀ r s, part (r ++ s) = part r ++ part s) {g : α → List β} {l : List α}
    {rs : List Report} (h : List.Forall₂ (fun a r => part r = g a) l rs) :
    part (Report.total rs) = l.flatMap g := by
  induction h with
  | nil => exact hnil
  | @cons a r l rs hr _ ih =>
    show part (r ++ Report.total rs) = _
    rw [happend, hr, ih, List.flatMap_cons]

/-! ### Findings about the catalog -/

/-- A report that says nothing about fixes that no entry names. -/
structure Report.OnEntries (r : Report) : Prop where
  fixesNotFound : r.fixesNotFound = []
  unmatchedFixRows : r.unmatchedFixRows = []

theorem Report.OnEntries.append {r s : Report} (hr : r.OnEntries) (hs : s.OnEntries) :
    (r ++ s).OnEntries where
  fixesNotFound := by
    rw [fixesNotFound_append, hr.fixesNotFound, hs.fixesNotFound]
    rfl
  unmatchedFixRows := by
    rw [unmatchedFixRows_append, hr.unmatchedFixRows, hs.unmatchedFixRows]
    rfl

theorem fixFindings_onEntries (fixIds : TextSet) (miss : CatalogMiss) :
    (fixFindings fixIds miss).OnEntries := by
  unfold fixFindings
  split_ifs with hm
  · exact ⟨rfl, rfl⟩
  · exact ⟨rfl, rfl⟩

/-- What is found about an entry that can be in the library. -/
theorem exists_libraryFindings {index : Index} (h : index.NeverFails) (options : Options)
    (miss : CatalogMiss) : ∃ events, libraryFindings index options miss = .ok
      { missingLibraryRecords :=
          if index.found? options.libraryProvider miss.libraryId = none then [miss] else []
        catalogAssociations := (index.found? options.libraryProvider miss.libraryId).elim []
          (associatedRecords index options)
        events := events } := by
  unfold libraryFindings
  rw [h.findProviderGame]
  cases index.found? options.libraryProvider miss.libraryId with
  | none => exact ⟨_, rfl⟩
  | some g =>
    obtain ⟨events, he⟩ := exists_associations h options "in catalog" g
    simp only [bind, Except.bind, he]
    exact ⟨_, rfl⟩

/-- What holds of the findings about the entries of one identifier, if it is kept from entry to
entry up to the first that can be in the library. -/
theorem exists_entryFindings_of {index : Index} {options : Options} {fixIds : TextSet}
    {P : List Catalog.Entry → Report → Prop} (nil : P [] {})
    (used : ∀ e es, mayBeInLibrary options e = true →
      ∃ r, libraryFindings index options (missOf options e) = .ok r ∧
        P (e :: es) (fixFindings fixIds (missOf options e) ++ r))
    (passed : ∀ e es r, mayBeInLibrary options e = false → P es r →
      P (e :: es) (fixFindings fixIds (missOf options e) ++
        nonLibraryFindings (missOf options e) ++ r)) (es : List Catalog.Entry) :
    ∃ r, entryFindings index options fixIds es = .ok r ∧ P es r := by
  induction es with
  | nil => exact ⟨{}, rfl, nil⟩
  | cons e es ih =>
    rw [entryFindings]
    cases hb : mayBeInLibrary options e with
    | true =>
      obtain ⟨r, hr, hp⟩ := used e es hb
      refine ⟨_, ?_, hp⟩
      simp [hr, bind, Except.bind, pure, Except.pure]
    | false =>
      obtain ⟨r, hr, hp⟩ := ih
      refine ⟨_, ?_, passed e es r hb hp⟩
      simp [hr, bind, Except.bind, pure, Except.pure]

theorem exists_entryFindings {index : Index} (h : index.NeverFails) (options : Options)
    (fixIds : TextSet) (es : List Catalog.Entry) :
    ∃ r, entryFindings index options fixIds es = .ok r ∧ r.OnEntries := by
  refine exists_entryFindings_of (P := fun _ r => r.OnEntries) ⟨rfl, rfl⟩ (fun e _ _ => ?_)
    (fun e _ r _ hr => ?_) es
  · obtain ⟨events, he⟩ := exists_libraryFindings h options (missOf options e)
    exact ⟨_, he, (fixFindings_onEntries fixIds _).append ⟨rfl, rfl⟩⟩
  · have hmiss : (nonLibraryFindings (missOf options e)).OnEntries := ⟨rfl, rfl⟩
    exact ((fixFindings_onEntries fixIds _).append hmiss).append hr

/-! ### Findings about the fixes -/

/-- What is found about one fix that no entry names. -/
theorem exists_unmatchedFindings {index : Index} (h : index.NeverFails) (options : Options)
    (id : String) : ∃ events, unmatchedFindings index options id = .ok
      { fixesNotFound := (Option.guard (index.found? options.libraryProvider · = none) id).toList
        unmatchedFixRows := rowsOf index options id
        events := events } := by
  unfold unmatchedFindings rowsOf
  rw [h.findProviderGame]
  cases hg : index.found? options.libraryProvider id with
  | none =>
    have hguard : Option.guard (index.found? options.libraryProvider · = none) id = some id := by
      simp [Option.guard, hg]
    rw [hguard]
    exact ⟨_, rfl⟩
  | some g =>
    have hguard : Option.guard (index.found? options.libraryProvider · = none) id = none := by
      simp [Option.guard, hg]
    obtain ⟨events, he⟩ := exists_associations h options "fix not in catalog" g
    rw [hguard]
    simp only [bind, Except.bind, he]
    exact ⟨_, rfl⟩

/-- The record that a fix is found under has the slug of the fix. -/
theorem rowsOf_eq_fixRows {index : Index} (h : index.NeverFails) (hf : index.FindsAsked)
    (options : Options) (id : String) : rowsOf index options id = fixRows index options id := by
  unfold rowsOf fixRows
  cases hg : index.found? options.libraryProvider id with
  | none => rfl
  | some g =>
    rw [← hf.slug_eq h hg]
    rfl

/-! ### The report -/

/-- A reconciliation has a report if the findings are made about all entries and all fixes, which
are then put together. -/
theorem exists_reconcile {index : Index} {options : Options}
    (catalog : TextMap (List Catalog.Entry)) {fixIds : TextSet}
    {P : List Catalog.Entry → Report → Prop} {Q : String → Report → Prop}
    (hP : ∀ es ∈ catalog.values, ∃ r, entryFindings index options fixIds es = .ok r ∧ P es r)
    (hQ : ∀ id ∈ unmatchedFixes options catalog fixIds,
      ∃ r, unmatchedFindings index options id = .ok r ∧ Q id r) :
    ∃ cs fs events, reconcile index options catalog fixIds =
        .ok { Report.total cs ++ Report.total fs with events := events } ∧
      List.Forall₂ P catalog.values cs ∧
      List.Forall₂ Q (unmatchedFixes options catalog fixIds) fs := by
  obtain ⟨cs, hcs, hcp⟩ := Report.exists_concat hP
  obtain ⟨fs, hfs, hfp⟩ := Report.exists_concat hQ
  let report := Report.total cs ++ Report.total fs
  refine ⟨cs, fs, report.events ++ notFoundEvents report, ?_, hcp, hfp⟩
  unfold reconcile
  rw [hcs, hfs]
  rfl

/-- A reconciliation over an index that never fails has a report, which lists the fixes that are not
seen in the catalog and have no record, and the rows that the others not seen lead to. -/
theorem reconcile_catalog_of_neverFails {index : Index} (h : index.NeverFails) (options : Options)
    (catalog : TextMap (List Catalog.Entry)) (fixIds : TextSet) :
    ∃ r, reconcile index options catalog fixIds = .ok r ∧
      r.fixesNotFound = (unmatchedFixes options catalog fixIds).filter
        (fun id => index.found? options.libraryProvider id = none) ∧
      r.unmatchedFixRows =
        (unmatchedFixes options catalog fixIds).flatMap (rowsOf index options) := by
  obtain ⟨cs, fs, events, hr, hcp, hfp⟩ := exists_reconcile catalog
    (Q := fun id r =>
      r.fixesNotFound = (Option.guard (index.found? options.libraryProvider · = none) id).toList ∧
        r.unmatchedFixRows = rowsOf index options id)
    (fun es _ => exists_entryFindings h options fixIds es) fun id _ => by
      obtain ⟨events, he⟩ := exists_unmatchedFindings h options id
      exact ⟨_, he, rfl, rfl⟩
  have hcn := Report.part_total rfl Report.fixesNotFound_append
    (hcp.imp fun _ _ hr => hr.fixesNotFound)
  have hcu := Report.part_total rfl Report.unmatchedFixRows_append
    (hcp.imp fun _ _ hr => hr.unmatchedFixRows)
  have hfn := Report.part_total rfl Report.fixesNotFound_append (hfp.imp fun _ _ hr => hr.1)
  have hfu := Report.part_total rfl Report.unmatchedFixRows_append (hfp.imp fun _ _ hr => hr.2)
  rw [List.flatMap_eq_nil_iff.2 fun _ _ => rfl] at hcn hcu
  refine ⟨_, hr, ?_, ?_⟩
  · show (Report.total cs ++ Report.total fs).fixesNotFound = _
    rw [Report.fixesNotFound_append, hcn, hfn, List.nil_append,
      ← List.filterMap_eq_flatMap_toList, List.filterMap_eq_filter]
  · show (Report.total cs ++ Report.total fs).unmatchedFixRows = _
    rw [Report.unmatchedFixRows_append, hcu, hfu, List.nil_append]

/-- Over a grouped catalog these are the fixes without an entry, if the index finds what it is
asked for. -/
theorem reconcile_of_neverFails {index : Index} (h : index.NeverFails) (hf : index.FindsAsked)
    (options : Options) (entries : List Catalog.Entry) (fixIds : TextSet) :
    ∃ r, reconcile index options (Catalog.group entries) fixIds = .ok r ∧
      r.fixesNotFound = (unnamedFixes options entries fixIds).filter
        (fun id => index.found? options.libraryProvider id = none) ∧
      r.unmatchedFixRows =
        (unnamedFixes options entries fixIds).flatMap (fixRows index options) := by
  obtain ⟨r, hr, hn, hu⟩ :=
    reconcile_catalog_of_neverFails h options (Catalog.group entries) fixIds
  rw [unmatchedFixes_group] at hn hu
  refine ⟨r, hr, hn, hu.trans (List.flatMap_congr fun id _ => ?_)⟩
  exact rowsOf_eq_fixRows h hf options id

/-- Every fix is accounted for. The fixes without an entry are told apart by whether the library's
provider has a record of them: those without one are listed, those with one lead to the records of
their first library game. Nothing is said about a fix with an entry. -/
theorem reconcile_fixes {index : Index} (h : index.NeverFails) (hf : index.FindsAsked)
    (options : Options) (entries : List Catalog.Entry) (fixIds : TextSet) :
    ∃ r, reconcile index options (Catalog.group entries) fixIds = .ok r ∧
      (unnamedFixes options entries fixIds).Pairwise (· < ·) ∧
      r.fixesNotFound = (unnamedFixes options entries fixIds).filter
        (fun id => index.found? options.libraryProvider id = none) ∧
      r.unmatchedFixRows =
        (unnamedFixes options entries fixIds).flatMap (fixRows index options) ∧
      ∀ id, id ∉ unnamedFixes options entries fixIds → id ∉ r.fixesNotFound ∧
        ∀ row ∈ r.unmatchedFixRows, row.catalogId ≠ options.idPrefix ++ id := by
  obtain ⟨r, hr, hn, hu⟩ := reconcile_of_neverFails h hf options entries fixIds
  refine ⟨r, hr, unnamedFixes_pairwise options entries fixIds, hn, hu, fun id hid => ⟨?_, ?_⟩⟩
  · rw [hn]
    exact fun hm => hid (List.mem_filter.1 hm).1
  · rw [hu]
    intro row hrow heq
    obtain ⟨id', hid', hrow⟩ := List.mem_flatMap.1 hrow
    rw [catalogId_eq_of_mem_fixRows hrow, String.append_right_inj] at heq
    exact hid (heq ▸ hid')

/-- A game with records at three stores, and its fix, besides a fix with an entry and one without
a record. -/
theorem reconcile_fixes_foundAtThree :
    let index := Listing.index
      { providerGames := [⟨1, "steam", "316720", "Grim Fandango"⟩,
          ⟨2, "gog", "1207658918", "Grim Fandango (GOG)"⟩, ⟨3, "igdb", "grim", "Grim Fandango"⟩]
        libraryGames := [⟨1, "Grim Fandango", "grim-fandango"⟩]
        links := [(1, 1), (1, 2), (1, 3)] }
    let fixIds := TextSet.ofList ["999", "400", "316720"]
    ∃ r, reconcile index {} (Catalog.group [⟨"ulwgl-400", "Portal", none, none⟩]) fixIds = .ok r ∧
      r.fixesNotFound = ["999"] ∧
      r.unmatchedFixRows =
        [⟨"Grim Fandango (GOG)", "gog", "1207658918", "ulwgl-316720"⟩] := by
  intro index fixIds
  obtain ⟨r, hr, -, hn, hu, -⟩ := reconcile_fixes (Listing.index_neverFails _)
    (Listing.index_findsAsked _) {} [⟨"ulwgl-400", "Portal", none, none⟩] fixIds
  refine ⟨r, hr, hn.trans ?_, hu.trans ?_⟩
  · decide +kernel
  · decide +kernel

end GameFixes
