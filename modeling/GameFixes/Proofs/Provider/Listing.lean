import GameFixes.Matching
import GameFixes.Proofs.Provider.History
import GameFixes.Reconcile

/-!
# Lists in place of a store

What a store holds after some imports can be written down as a list: its games, each kind by
ascending number, and its links in any order. Whoever asks the list gets the answers of the store.

* `Listing.Shows l s`: the list `l` is one of what the store `s` holds;
* `Shows.index_eq`: such a list is the same index as the store;
* `imports_interchangeable`: there is one after any imports, and whatever is made of the answers of
  an index is the same with it as with the store.
-/

namespace GameFixes.Provider

/-- A list of what a store holds: its games, each kind by ascending number, and its links. -/
structure Listing.Shows (l : Listing) (s : Store) : Prop where
  libraryGames : l.libraryGames.Perm s.libraryGames
  libraryAscending : l.libraryGames.Pairwise fun a b => a.id < b.id
  providerGames : l.providerGames.Perm s.providerGames
  providerAscending : l.providerGames.Pairwise fun a b => a.id < b.id
  links : ∀ link, link ∈ l.links ↔ link ∈ s.links

variable {l : Listing} {s : Store}

/-- What a store holds in ascending order is listed as it stands. -/
theorem Store.Ordered.shows_listing (h : s.Ordered) : s.listing.Shows s where
  libraryGames := .rfl
  libraryAscending := h.library
  providerGames := .rfl
  providerAscending := h.provider
  links _ := .rfl

/-- A list of what a store holds is the same index as the store. -/
theorem Listing.Shows.index_eq (h : l.Shows s) (hs : s.Ordered) : l.index = s.index := by
  have hlibrary := eq_of_perm_of_ascending h.libraryGames h.libraryAscending hs.library
  have hprovider := eq_of_perm_of_ascending h.providerGames h.providerAscending hs.provider
  rw [← hs.index_listing]
  unfold Listing.index Listing.find? Listing.libraryGamesOf Listing.providerGamesOf
  simp only [hlibrary, hprovider, h.links]
  rfl

theorem ordered_imports (sets : List RecordSet) : (Store.imports sets).Ordered := by
  rw [imports_eq]
  exact (logsOf sets.flatten).ordered_store

/-- **A store and the list of what it holds are interchangeable.** After any imports there is such a
list; it answers every lookup as the store does, for games that are held and for any others, and so
the same is found by a reconciliation, by going from a record to its associates, and by matching the
library. -/
theorem imports_interchangeable (sets : List RecordSet) :
    (∃ l : Listing, l.Shows (Store.imports sets)) ∧
    ∀ l : Listing, l.Shows (Store.imports sets) →
      (∀ provider slug, l.index.findProviderGame provider slug =
        (Store.imports sets).index.findProviderGame provider slug) ∧
      (∀ g, l.index.libraryGamesFor g = (Store.imports sets).index.libraryGamesFor g) ∧
      (∀ game, l.index.providerGamesFor game = (Store.imports sets).index.providerGamesFor game) ∧
      (∀ options catalog fixIds, reconcile l.index options catalog fixIds =
        reconcile (Store.imports sets).index options catalog fixIds) ∧
      (∀ options context g, GameFixes.associations l.index options context g =
        GameFixes.associations (Store.imports sets).index options context g) ∧
      ∀ libraryProvider ids, matchLibraryGames l.index libraryProvider ids =
        matchLibraryGames (Store.imports sets).index libraryProvider ids := by
  refine ⟨⟨_, (ordered_imports sets).shows_listing⟩, fun l hl => ?_⟩
  rw [hl.index_eq (ordered_imports sets)]
  exact ⟨fun _ _ => rfl, fun _ => rfl, fun _ => rfl, fun _ _ _ => rfl, fun _ _ _ => rfl,
    fun _ _ => rfl⟩

/-- A game that was imported twice, with its links listed the other way round. -/
theorem imports_interchangeable_relinked :
    let s := Store.imports
      [[⟨"Grim", "grim", [⟨"steam", "316720", none⟩]⟩],
        [⟨"Grim Fandango", "grim", [⟨"steam", "316720", none⟩, ⟨"gog", "12", some "Grim"⟩]⟩]]
    let l : Listing :=
      { providerGames := [⟨1, "steam", "316720", "Grim Fandango"⟩, ⟨3, "gog", "12", "Grim"⟩]
        libraryGames := [⟨1, "Grim Fandango", "grim"⟩]
        links := [(1, 3), (1, 1)] }
    l.Shows s ∧
      (∀ provider slug, s.index.findProviderGame provider slug =
        .ok (l.find? provider slug)) ∧
      reconcile l.index {} ∅ (TextSet.ofList ["316720", "999"]) =
        reconcile s.index {} ∅ (TextSet.ofList ["316720", "999"]) := by
  intro s l
  have hs : s =
      { libraryGames := [⟨1, "Grim Fandango", "grim"⟩]
        providerGames := [⟨1, "steam", "316720", "Grim Fandango"⟩, ⟨3, "gog", "12", "Grim"⟩]
        links := [(1, 1), (1, 3)]
        libraryCounter := 2
        providerCounter := 3 } := by
    decide +kernel
  have hl : l.Shows s := by
    rw [hs]
    exact ⟨.rfl, by decide, .rfl, by decide, fun _ => (List.Perm.swap _ _ []).mem_iff⟩
  obtain ⟨hfind, -, -, hreconcile, -⟩ := (imports_interchangeable _).2 l hl
  exact ⟨hl, fun provider slug => (hfind provider slug).symm, hreconcile _ _ _⟩

end GameFixes.Provider
