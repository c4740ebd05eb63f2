import GameFixes.Association
import GameFixes.Catalog.Entry

/-!
# Reconciliation

A catalog, the fixes that exist and the provider records are compared with each other. Every catalog
identifier and every fix that no catalog identifier names has its own findings; a report is all of
them one after another.
-/

namespace GameFixes

open Provider

/-- A catalog entry that something is missing for, by its title and plain identifier. -/
structure CatalogMiss where
  title : String
  libraryId : String
  deriving DecidableEq, Repr

/-- A row for the catalog: a game at a provider that a fix is known for. -/
structure AssociationRow where
  name : String
  provider : String
  slug : String
  catalogId : String
  deriving DecidableEq, Repr

/-- A row as a line of comma separated fields, the last two of them empty. -/
def AssociationRow.csvLine (r : AssociationRow) : String :=
  ",".intercalate [r.name, r.provider, r.slug, r.catalogId, "", ""]

/-- What a reconciliation finds. -/
structure Report where
  /-- Entries whose identifier has no fix. -/
  withoutFixes : List CatalogMiss := []
  /-- Entries that cannot be in the library. -/
  nonLibrary : List CatalogMiss := []
  /-- Entries that have no record at the library's provider. -/
  missingLibraryRecords : List CatalogMiss := []
  /-- Records reached from catalog entries. -/
  catalogAssociations : List ProviderGame := []
  /-- Rows for fixes that no catalog identifier names. -/
  unmatchedFixRows : List AssociationRow := []
  /-- Fixes that no catalog identifier names and that have no record at the library's provider. -/
  fixesNotFound : List String := []
  /-- What was reported on the way. -/
  events : List Event := []
  deriving DecidableEq, Repr

/-- The findings of two reports, one after the other. -/
def Report.append (r s : Report) : Report where
  withoutFixes := r.withoutFixes ++ s.withoutFixes
  nonLibrary := r.nonLibrary ++ s.nonLibrary
  missingLibraryRecords := r.missingLibraryRecords ++ s.missingLibraryRecords
  catalogAssociations := r.catalogAssociations ++ s.catalogAssociations
  unmatchedFixRows := r.unmatchedFixRows ++ s.unmatchedFixRows
  fixesNotFound := r.fixesNotFound ++ s.fixesNotFound
  events := r.events ++ s.events

instance : Append Report := ⟨Report.append⟩

variable {m : Type → Type} [Monad m]

/-- The findings of every element of a list, one after another. -/
def Report.concat {α : Type} (f : α → m Report) : List α → m Report
  | [] => pure {}
  | a :: l => do return (← f a) ++ (← Report.concat f l)

/-! ### The catalog -/

/-- The miss that an entry would be. -/
def missOf (options : Options) (e : Catalog.Entry) : CatalogMiss :=
  ⟨e.title, plainId options.idPrefix e.catalogId⟩

/-- Whether an identifier can be one of the library's provider: digits only, and some. -/
def isLibraryId (id : String) : Bool := !id.isEmpty && id.toList.all Char.isDigit

/-- Whether an entry can be in the library: its identifier must look so and not be its code name. -/
def mayBeInLibrary (options : Options) (e : Catalog.Entry) : Bool :=
  let id := plainId options.idPrefix e.catalogId
  isLibraryId id && e.codeName ≠ some id

/-- The entries of one identifier that are looked at: those up to the first that can be in the
library. -/
def lookedAt (options : Options) : List Catalog.Entry → List Catalog.Entry
  | [] => []
  | e :: es => if mayBeInLibrary options e then [e] else e :: lookedAt options es

/-- The findings about whether an entry has a fix. -/
def fixFindings (fixIds : TextSet) (miss : CatalogMiss) : Report :=
  if fixIds.contains miss.libraryId then {}
  else
    { withoutFixes := [miss]
      events := [⟨.warn, "catalog entry has no fixes",
        [("title", .text miss.title), ("id", .text miss.libraryId)]⟩] }

/-- The findings about an entry that cannot be in the library. -/
def nonLibraryFindings (miss : CatalogMiss) : Report :=
  { nonLibrary := [miss]
    events := [⟨.info, "non library game in catalog",
      [("title", .text miss.title), ("id", .text miss.libraryId)]⟩] }

/-- The findings about an entry that can be in the library. -/
def libraryFindings (index : Lookups m) (options : Options) (miss : CatalogMiss) : m Report := do
  match ← index.findProviderGame options.libraryProvider miss.libraryId with
  | some game =>
    let (records, events) ← associations index options "in catalog" game
    return { catalogAssociations := records, events := events }
  | none =>
    return { missingLibraryRecords := [miss]
             events := [⟨.warn, "library record not found",
               [("provider", .text options.libraryProvider), ("id", .text miss.libraryId)]⟩] }

/-- The findings about the entries of one identifier, up to the first that can be in the library. -/
def entryFindings (index : Lookups m) (options : Options) (fixIds : TextSet) :
    List Catalog.Entry → m Report
  | [] => pure {}
  | e :: es => do
    let miss := missOf options e
    if mayBeInLibrary options e then
      return fixFindings fixIds miss ++ (← libraryFindings index options miss)
    else
      return fixFindings fixIds miss ++ nonLibraryFindings miss ++
        (← entryFindings index options fixIds es)

/-! ### The fixes -/

/-- The row for a record that a fix leads to. -/
def rowOf (options : Options) (game record : ProviderGame) : AssociationRow :=
  ⟨record.name, record.provider, record.slug, options.idPrefix ++ game.slug⟩

/-- The findings about a fix that no catalog identifier names. -/
def unmatchedFindings (index : Lookups m) (options : Options) (fixId : String) : m Report := do
  match ← index.findProviderGame options.libraryProvider fixId with
  | some game =>
    let (records, events) ← associations index options "fix not in catalog" game
    return { unmatchedFixRows := records.map (rowOf options game), events := events }
  | none => return { fixesNotFound := [fixId] }

/-- The plain identifiers of the entries of a catalog that are looked at. -/
def seenIds (options : Options) (catalog : TextMap (List Catalog.Entry)) : List String :=
  (catalog.values.flatMap (lookedAt options)).map fun e => plainId options.idPrefix e.catalogId

/-- The fixes that no entry that is looked at names, in ascending order. -/
def unmatchedFixes (options : Options) (catalog : TextMap (List Catalog.Entry))
    (fixIds : TextSet) : List String :=
  let seen := seenIds options catalog
  fixIds.toList.filter fun id => !seen.contains id

/-- The event that reports fixes without a record, if there are any. -/
def notFoundEvents (r : Report) : List Event :=
  if r.fixesNotFound.isEmpty then []
  else [⟨.warn, "fix ids without a library record", [("count", .number r.fixesNotFound.length)]⟩]

/-- All findings about a catalog and a set of fixes. -/
def reconcile (index : Lookups m) (options : Options) (catalog : TextMap (List Catalog.Entry))
    (fixIds : TextSet) : m Report := do
  let catalogSide ← Report.concat (entryFindings index options fixIds) catalog.values
  let fixSide ← Report.concat (unmatchedFindings index options)
    (unmatchedFixes options catalog fixIds)
  let report := catalogSide ++ fixSide
  return { report with events := report.events ++ notFoundEvents report }

end GameFixes
