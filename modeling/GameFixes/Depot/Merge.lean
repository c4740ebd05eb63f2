import GameFixes.Depot.Advance
import GameFixes.Depot.Renames

/-!
# Merging snapshots

Two snapshots that have come from a common one become one again. A place that only one side has
changed is taken from that side; texts that both have changed are merged; all else is a conflict. A
file that one side has under another name is merged there.
-/

namespace GameFixes.Depot

/-- How a merge is made. -/
structure MergePlan where
  labels : TextMerge.Labels
  favor : Option TextMerge.Favor := none

/-- What comes of the merge of a place. -/
structure MergedItem where
  archive : Archive
  item : Option Item
  conflict : Option Conflict := none
  /-- What is said about it. -/
  note : Option String := none

/-- What comes of a merge. -/
structure Merged where
  archive : Archive
  snapshot : Snapshot := []
  conflicts : List (Place × Conflict) := []
  notes : List String := []

namespace Merge

/-- Whether an item is a file. -/
def isFile (item : Item) : Bool := item.kind = .file || item.kind = .program

/-- The content of an item that is a file, or nothing. -/
def contentOf (a : Archive) (item : Option Item) : List UInt8 :=
  match item with
  | some item => if isFile item then (a.blob? item.name).getD [] else []
  | none => []

/-- The file that two files from a common one become. -/
def mergeFiles (a : Archive) (plan : MergePlan) (p : Place) (base : Option Item)
    (ours theirs : Item) : MergedItem :=
  let baseKind := base.map (·.kind)
  let kind := if ours.kind = theirs.kind || some ours.kind = baseKind then theirs.kind
    else ours.kind
  let isKindClear := ours.kind = theirs.kind || some ours.kind = baseKind ||
    some theirs.kind = baseKind
  let conflict : Conflict := ⟨base, some ours, some theirs⟩
  let made (archive : Archive) (name : ObjectName) (isClear : Bool) (note : Option String) :
      MergedItem :=
    ⟨archive, some ⟨kind, name⟩, if isClear && isKindClear then none else some conflict, note⟩
  let baseName := (base.filter isFile).map (·.name)
  if ours.name = theirs.name || baseName = some theirs.name then made a ours.name true none
  else if baseName = some ours.name then made a theirs.name true none
  else
    let (content, isClear) := TextMerge.merge plan.labels plan.favor (contentOf a base)
      (contentOf a (some ours)) (contentOf a (some theirs))
    let (a, name) := a.put (.blob content)
    made a name isClear (some ("Auto-merging " ++ String.ofList (placeText p)))

/-- What the items at a place become. -/
def mergeAt (a : Archive) (plan : MergePlan) (p : Place) (base ours theirs : Option Item) :
    MergedItem :=
  if ours = theirs || base = theirs then ⟨a, ours, none, none⟩
  else if base = ours then ⟨a, theirs, none, none⟩
  else
    let conflict : Conflict := ⟨base, ours, theirs⟩
    match ours, theirs with
    | some x, some y =>
      if isFile x && isFile y then mergeFiles a plan p base x y
      else
        match plan.favor with
        | some .ours => ⟨a, some x, none, none⟩
        | some .theirs => ⟨a, some y, none, none⟩
        | some .both | none => ⟨a, some x, some conflict, none⟩
    | some x, none => ⟨a, some x, some conflict, none⟩
    | none, y => ⟨a, y, some conflict, none⟩

/-- The snapshot in which what is at some places is at others. -/
def relocate (renames : List Renames.Rename) (s : Snapshot) : Snapshot :=
  s.map fun (p, item) =>
    match renames.find? (·.old = p) with
    | some r => if (s.at? r.new).isNone then (r.new, item) else (p, item)
    | none => (p, item)

/-- A place with a sign of the side behind its last name. -/
def withSide (p : Place) (side : String) : Place :=
  let side := side.map fun c => if c = '/' then '_' else c
  p.dropLast ++ (p.getLast?.map fun name => name ++ bytesOf ("~" ++ side)).toList

/-- A merge in which no file stands where a directory has to be. -/
def makeRoom (plan : MergePlan) (ours theirs : Snapshot) (m : Merged) : Merged :=
  let isInWay (p : Place) : Bool := m.snapshot.hasUnder p
  let side (p : Place) : String := if (ours.at? p).isSome then plan.labels.ours
    else plan.labels.theirs
  let moved := m.snapshot.filter fun e => isInWay e.1
  let conflicts := moved.map fun (p, _) =>
    (p, (⟨none, ours.at? p, theirs.at? p⟩ : Conflict))
  { m with
    snapshot := m.snapshot.map fun (p, item) =>
      (if isInWay p then withSide p (side p) else p, item)
    conflicts := m.conflicts ++ conflicts.filter fun e => !m.conflicts.any (·.1 = e.1) }

/-- The snapshot that two snapshots from a common one become. -/
def merge (a : Archive) (plan : MergePlan) (base ours theirs : Snapshot) : Merged :=
  let mine := Renames.find a.blob? false base ours
  let yours := Renames.find a.blob? false base theirs
  -- A name that both sides gave up for different ones is a conflict, and so is a renamed file that
  -- the other side does not have any more.
  let isTorn (r : Renames.Rename) (others : List Renames.Rename) (other : Snapshot) : Bool :=
    match others.find? (·.old = r.old) with
    | some o => o.new ≠ r.new
    | none => (other.at? r.old).isNone
  let torn := (mine.filter fun r => isTorn r yours theirs) ++
    yours.filter fun r => isTorn r mine ours
  let followed := (mine ++ yours).filter fun r => !torn.any (·.old = r.old)
  let base' := relocate followed base
  let ours' := relocate followed ours
  let theirs' := relocate followed theirs
  let places := ((base' ++ ours' ++ theirs').map (·.1)).eraseDups.mergeSort fun p q => p ≤ q
  let start : Merged := { archive := a }
  let m := places.foldl (fun (m : Merged) p =>
    let r := mergeAt m.archive plan p (base'.at? p) (ours'.at? p) (theirs'.at? p)
    { archive := r.archive
      snapshot := m.snapshot ++ (r.item.map (p, ·)).toList
      conflicts := m.conflicts ++ (r.conflict.map (p, ·)).toList
      notes := m.notes ++ r.note.toList }) start
  let m := makeRoom plan ours' theirs' m
  { m with conflicts := m.conflicts ++ torn.filterMap fun r =>
      if m.conflicts.any (·.1 = r.new) then none
      else some (r.new, ⟨base.at? r.old, ours.at? r.new, theirs.at? r.new⟩) }

end Merge

namespace Workspace

/-- Lets the directory and the stage go from what our side holds to what a merge holds. -/
def applyMerge? (w : Workspace) (ours : Snapshot) (m : Merged) : Option Workspace := do
  let w ← (w.withArchive m.archive).advance? ⟨ours, m.snapshot, true⟩
  if m.conflicts.isEmpty then return w
  else return w.putStage (m.conflicts.foldl (fun stage (p, c) => stage.putConflict p c) w.stage)

end Workspace

end GameFixes.Depot
