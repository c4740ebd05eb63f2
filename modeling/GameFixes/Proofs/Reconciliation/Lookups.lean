import GameFixes.Proofs.Reconciliation.Fixes

/-!
# The lookups of a reconciliation

What a reconciliation looks up in an index, lookup by lookup: the same reconciliation is run over an
index that answers as before and notes every lookup in a log.

* `Lookup`, `Index.logged`: the lookups that are told apart, and the index that notes them;
* `Notes x y made`: what `x` comes to over the index with a log is what `y` comes to over the index
  without one, and the log grows by the lookups `made`;
* `Notes.bind`: of two steps, one after the other, the log grows by the lookups of both;
* `lookupsFor`: the lookups for a plain identifier, its record first and once;
* `notes_libraryFindings`, `notes_unmatchedFindings`: an entry that can be in the library, and a fix
  without an entry, lead to these;
* `notes_concat`: the lookups along a list.
-/

namespace GameFixes

namespace Provider

/-- A lookup in an index. -/
inductive Lookup
  | record (provider slug : String)
  | libraryGames (g : ProviderGame)
  | providerGames (game : LibraryGame)
  deriving DecidableEq, Repr

/-- Steps that may fail and that note lookups in a log, which is kept where they fail. -/
abbrev Logging : Type → Type := ExceptT Failure (StateM (List Lookup))

namespace Logging

variable {α β : Type}

/-- Takes the steps with a log so far: what they come to, and the log after them. -/
def runFrom (x : Logging α) (log : List Lookup) : Except Failure α × List Lookup :=
  (ExceptT.run x).run log

/-- Notes a lookup at the end of the log, and gives the answer to it. -/
def note (lookup : Lookup) (answer : Except Failure α) : Logging α := do
  modify (· ++ [lookup])
  MonadExcept.ofExcept answer

theorem runFrom_pure (a : α) (log : List Lookup) : runFrom (pure a) log = (.ok a, log) := rfl

theorem runFrom_note (lookup : Lookup) (answer : Except Failure α) (log : List Lookup) :
    runFrom (note lookup answer) log = (answer, log ++ [lookup]) := by
  cases answer <;> rfl

/-- Steps go on with what the steps before them come to, and with the log after those. -/
theorem runFrom_bind_of_ok {x : Logging α} {f : α → Logging β} {log log' : List Lookup} {a : α}
    (h : x.runFrom log = (.ok a, log')) : (x >>= f).runFrom log = (f a).runFrom log' := by
  show (ExceptT.bindCont f (x.runFrom log).1).run (x.runFrom log).2 = _
  rw [h]
  rfl

end Logging

/-- The same index, which notes every lookup in a log before it answers. -/
def Index.logged (index : Index) : Lookups Logging where
  findProviderGame provider slug :=
    .note (.record provider slug) (index.findProviderGame provider slug)
  libraryGamesFor g := .note (.libraryGames g) (index.libraryGamesFor g)
  providerGamesFor game := .note (.providerGames game) (index.providerGamesFor game)

end Provider

open Provider

/-! ### Steps with a log -/

/-- With a log, `x` comes to what `y` comes to without one, and neither fails. Whatever the log is
before, these are the lookups that it grows by. -/
def Notes {α : Type} (x : Logging α) (y : Except Failure α) (made : List Lookup) : Prop :=
  ∃ a, y = .ok a ∧ ∀ log, x.runFrom log = (.ok a, log ++ made)

section

variable {α β : Type} {made made' : List Lookup}

theorem notes_pure (a : α) : Notes (pure a) (pure a) [] :=
  ⟨a, rfl, fun log => by rw [Logging.runFrom_pure, List.append_nil]⟩

theorem notes_note (lookup : Lookup) {answer : Except Failure α} {a : α} (h : answer = .ok a) :
    Notes (.note lookup answer) answer [lookup] :=
  ⟨a, h, fun log => by rw [Logging.runFrom_note, h]⟩

/-- The lookups of two steps are those of the first, and then those of the second. -/
theorem Notes.bind {x : Logging α} {y : Except Failure α} {f : α → Logging β}
    {g : α → Except Failure β} (hx : Notes x y made)
    (hf : ∀ a, y = .ok a → Notes (f a) (g a) made') :
    Notes (x >>= f) (y >>= g) (made ++ made') := by
  obtain ⟨a, ha, hlog⟩ := hx
  obtain ⟨b, hb, hlog'⟩ := hf a ha
  refine ⟨b, ?_, fun log => ?_⟩
  · rw [ha]
    exact hb
  · rw [Logging.runFrom_bind_of_ok (hlog log), hlog', List.append_assoc]

/-- Nothing is looked up after the last step. -/
theorem Notes.map {x : Logging α} {y : Except Failure α} (hx : Notes x y made) (k : α → β) :
    Notes (x >>= fun a => pure (k a)) (y >>= fun a => pure (k a)) made := by
  have h : Notes (x >>= fun a => pure (k a)) (y >>= fun a => pure (k a)) (made ++ []) :=
    hx.bind fun a _ => notes_pure (k a)
  rwa [List.append_nil] at h

/-- Along a list, what is looked up for its elements is looked up for one after another. -/
theorem notes_concat {f : α → Logging Report} {g : α → Except Failure Report}
    {made : α → List Lookup} {l : List α} (h : ∀ a ∈ l, Notes (f a) (g a) (made a)) :
    Notes (Report.concat f l) (Report.concat g l) (l.flatMap made) := by
  induction l with
  | nil => exact notes_pure ({} : Report)
  | cons a l ih =>
    rw [List.forall_mem_cons] at h
    rw [List.flatMap_cons]
    exact h.1.bind fun r _ => (ih h.2).map (r ++ ·)

end

/-! ### Findings -/

/-- The lookups for a record: its library games, and the records of the first of them. -/
def associationLookups (index : Index) (g : ProviderGame) : List Lookup :=
  .libraryGames g :: (index.libraryGames g).head?.toList.map .providerGames

/-- The lookups for a plain identifier: its record, once, and then those for the record. -/
def lookupsFor (index : Index) (options : Options) (id : String) : List Lookup :=
  .record options.libraryProvider id ::
    (index.found? options.libraryProvider id).elim [] (associationLookups index)

section

variable {index : Index} (h : index.NeverFails) (options : Options)

include h

theorem notes_associations (context : String) (g : ProviderGame) :
    Notes (associations index.logged options context g) (associations index options context g)
      (associationLookups index g) := by
  refine (notes_note (.libraryGames g) (h.libraryGamesFor g)).bind fun games hgames => ?_
  rw [h.libraryGamesFor] at hgames
  cases hgames
  cases index.libraryGames g with
  | nil => exact notes_pure _
  | cons first games =>
    exact (notes_note (.providerGames first) (h.providerGamesFor first)).map _

/-- A record is looked up, and what follows depends on whether there is one. -/
theorem notes_record {α : Type} (id : String) {f : Option ProviderGame → Logging α}
    {g : Option ProviderGame → Except Failure α} (hnone : Notes (f none) (g none) [])
    (hsome : ∀ record,
      Notes (f (some record)) (g (some record)) (associationLookups index record)) :
    Notes (index.logged.findProviderGame options.libraryProvider id >>= f)
      (index.findProviderGame options.libraryProvider id >>= g) (lookupsFor index options id) := by
  refine (notes_note _ (h.findProviderGame _ _)).bind fun answer hanswer => ?_
  rw [h.findProviderGame] at hanswer
  cases hanswer
  cases index.found? options.libraryProvider id with
  | none => exact hnone
  | some record => exact hsome record

/-- The lookups for an entry that can be in the library. -/
theorem notes_libraryFindings (miss : CatalogMiss) :
    Notes (libraryFindings index.logged options miss) (libraryFindings index options miss)
      (lookupsFor index options miss.libraryId) :=
  notes_record h options miss.libraryId (notes_pure _) fun record =>
    (notes_associations h options "in catalog" record).map _

/-- The lookups for a fix without an entry. -/
theorem notes_unmatchedFindings (id : String) :
    Notes (unmatchedFindings index.logged options id) (unmatchedFindings index options id)
      (lookupsFor index options id) :=
  notes_record h options id (notes_pure _) fun record =>
    (notes_associations h options "fix not in catalog" record).map _

end

end GameFixes
