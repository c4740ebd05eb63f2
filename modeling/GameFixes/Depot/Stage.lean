import GameFixes.Depot.Archive

/-!
# The stage

The stage of a depot says what the next commit will hold: for each place an entry, and for places
about which several sides of a merge disagree a conflict. Where something is staged, no directory is,
so nothing is staged in it.
-/

namespace GameFixes.Depot

/-- What is staged for a place. -/
structure Entry where
  item : Item
  /-- What stood there when the item was taken from it or written to it. -/
  seen : Option Node := none
  /-- Whether it is only said that something will be staged; the item says nothing then. -/
  isIntended : Bool := false
  /-- Whether nobody looks for changes of what stands there. -/
  isHeld : Bool := false
  deriving DecidableEq, Repr

/-- Whether an entry is for a directory. -/
def Entry.isDir (e : Entry) : Bool := e.item.kind.isDir

/-- What the sides of a merge have at a place: where they come from, ours and theirs. -/
structure Conflict where
  base : Option Item
  ours : Option Item
  theirs : Option Item
  deriving DecidableEq, Repr

/-- What is staged. -/
structure Stage where
  entries : List (Place × Entry) := []
  conflicts : List (Place × Conflict) := []
  deriving DecidableEq, Repr

namespace Stage

/-- What is staged for a place. -/
def at? (s : Stage) (p : Place) : Option Entry := s.entries.lookup p

/-- The places with an entry or a conflict. -/
def places (s : Stage) : List Place := s.entries.map (·.1) ++ s.conflicts.map (·.1)

/-- Whether something is staged for a place in a directory. -/
def hasUnder (s : Stage) (p : Place) : Bool := s.places.any (Tree.isUnder p)

/-- Whether there is something about a place. -/
def knows (s : Stage) (p : Place) : Bool :=
  (s.at? p).isSome || (s.conflicts.lookup p).isSome

/-- The stage without anything about a place. -/
def erase (s : Stage) (p : Place) : Stage :=
  ⟨s.entries.filter (·.1 ≠ p), s.conflicts.filter (·.1 ≠ p)⟩

/-- Whether nothing about a place can stay when something is staged for another one. -/
def givesWay (p q : Place) : Bool := q = p || Tree.isUnder p q || Tree.isUnder q p

/-- The stage with an entry for a place. -/
def put (s : Stage) (p : Place) (e : Entry) : Stage :=
  ⟨(s.entries.filter fun f => !givesWay p f.1) ++ [(p, e)],
    s.conflicts.filter fun f => !givesWay p f.1⟩

/-- The stage with a conflict at a place. -/
def putConflict (s : Stage) (p : Place) (c : Conflict) : Stage :=
  ⟨s.entries.filter (·.1 ≠ p), s.conflicts.filter (·.1 ≠ p) ++ [(p, c)]⟩

/-- What a commit of a stage holds, in the order of the places. -/
def snapshot (s : Stage) : Snapshot :=
  ((s.entries.filter (!·.2.isIntended)).map fun (p, e) => (p, e.item)).mergeSort
    fun a b => a.1 ≤ b.1

/-- The stage of a snapshot at which nobody has looked. -/
def ofSnapshot (s : Snapshot) : Stage := ⟨s.map fun (p, item) => (p, { item := item }), []⟩

end Stage

end GameFixes.Depot
