import GameFixes.Depot.Staging

/-!
# From one commit to another

What is staged and what stands in the directory goes from what one commit holds to what another one
holds, place by place. This is refused if it would lose something that neither holds; but it can
also be forced.
-/

namespace GameFixes.Depot

/-- A step from one commit to another. -/
structure Advance where
  old : Snapshot
  new : Snapshot
  /-- Whether what is ignored may be lost. -/
  losesIgnored : Bool := true

/-- What becomes of a place. -/
inductive Fate
  /-- What is staged stays, or that nothing is. -/
  | stays
  | goes
  /-- The new item comes. -/
  | comes (item : Item)
  deriving DecidableEq, Repr

/-- What stands in the way of a place. -/
inductive Standing
  | nothing
  | node (n : Node)
  /-- Something that is no directory stands at a place around it. -/
  | blocked (outer : Place)
  deriving DecidableEq, Repr

namespace Workspace

/-! ### What may be lost -/

/-- What stands at a place or in its way. -/
def standing (w : Workspace) (p : Place) : Standing :=
  match (Tree.around p).find? fun q => w.tree.at? (w.full q) ≠ some .dir with
  | some q => if (w.tree.at? (w.full q)).isSome then .blocked q else .nothing
  | none =>
    match w.tree.at? (w.full p) with
    | some n => .node n
    | none => .nothing

/-- Whether what is staged for a place is what stands there, or nothing stands there. -/
def isCurrent (w : Workspace) (p : Place) (e : Entry) : Bool :=
  e.isHeld ||
  match w.standing p, e.item.kind with
  | .nothing, _ => true
  | .blocked _, _ => false
  | .node _, .nested => true
  | .node n, _ => !w.isChanged w.stage p e n

/-- Whether an advance may lose something at a place as it is ignored. -/
def mayLose (w : Workspace) (a : Advance) (p : Place) (isDir : Bool) : Bool :=
  a.losesIgnored && w.isIgnored p isDir

/-- Whether a directory can give way to something else: what is staged in it is what stands there,
the rest may be lost, and it is not the directory of a depot of its own or in one. -/
def canClear (w : Workspace) (a : Advance) (p : Place) : Bool :=
  let stage := w.stage
  (stage.entries.all fun (q, e) => !Tree.isUnder p q || w.isCurrent q e) &&
    ((w.unstaged stage).all fun (q, n) => !Tree.isUnder p q || w.mayLose a q (n = .dir)) &&
    !(Tree.around p ++ [p]).any (w.isForeign stage)

/-- Whether what stands at a place, or in its way, and is not staged there may be lost for an item;
`isGone` says which places are given up anyway. -/
def canOverwrite (w : Workspace) (a : Advance) (isGone : Place → Bool) (p : Place)
    (isNested : Bool) : Bool :=
  match w.standing p with
  | .nothing => true
  | .blocked q => w.mayLose a q false || isGone q
  | .node .dir => isNested || w.mayLose a p true || w.canClear a p
  | .node _ => w.mayLose a p false || isGone p

/-! ### Step by step -/

/-- What becomes of a place, if the advance can be made there. -/
def fate? (w : Workspace) (a : Advance) (isGone : Place → Bool) (p : Place) : Option Fate :=
  let old := a.old.at? p
  let new := a.new.at? p
  match w.stage.at? p with
  | some e =>
    if old = new || new = some e.item then some .stays
    else if old = some e.item then
      if w.isCurrent p e then some (match new with
        | none => .goes
        | some item => .comes item)
      else none
    else none
  | none =>
    match old, new with
    | _, none => if w.canOverwrite a isGone p false then some .stays else none
    | none, some item =>
      if w.canOverwrite a isGone p (item.kind = .nested) then some (.comes item) else none
    | some _, some _ => if old = new then some .stays else none

/-- The places that an advance is about. -/
def placesOf (a : Advance) (stage : Stage) : List Place :=
  (stage.entries.map (·.1) ++ a.old.map (·.1) ++ a.new.map (·.1)).eraseDups

/-- Whether all places of a snapshot have names that they may have. -/
def allows (w : Workspace) (s : Snapshot) : Bool :=
  s.all fun (p, item) => Reserved.allows w.guard (item.kind = .link) p

/-- The stage in which nobody has to look again at what was written just now. -/
def withSeen (w : Workspace) (stage : Stage) (isWritten : Place → Bool) : Stage :=
  { stage with
    entries := stage.entries.map fun (p, e) =>
      if isWritten p then (p, { e with seen := w.standing? p }) else (p, e) }

/-- Takes away what goes and writes what comes, and settles the stage. -/
def applyFates? (w : Workspace) (stage : Stage) (gone : List Place) (come : Snapshot) :
    Option Workspace := do
  -- What goes makes room for what comes: a directory may come where a file was.
  let cleared := gone.foldl (fun w p =>
    match w.standing p with
    | .nothing | .blocked _ => w
    | .node n =>
      if n = .dir && !(w.tree.children (w.full p)).isEmpty then w else w.removeAt p) w
  let written ← come.foldlM (fun (w : Workspace) (p, item) => w.writeItem? stage p item) cleared
  return written.putStage (written.withSeen stage fun p => come.any (·.1 = p))

/-- Makes an advance, if it can be made everywhere. -/
def advance? (w : Workspace) (a : Advance) : Option Workspace := do
  let stage := w.stage
  let comes (p : Place) : Bool := (a.new.at? p).isSome && (stage.at? p).isNone
  let isGone (p : Place) : Bool :=
    (stage.at? p).isSome &&
      (((a.old.at? p).isSome && (a.new.at? p).isNone) || (Tree.around p).any comes)
  -- Every place must have a fate before anything is changed.
  let fates ← (placesOf a stage).mapM fun p =>
    if (stage.at? p).isSome && (Tree.around p).any fun q =>
        comes q && w.tree.at? (w.full q) = some .dir then
      if (Tree.around p).all fun q => !comes q || w.canClear a q then some (p, Fate.goes) else none
    else (w.fate? a isGone p).map (p, ·)
  let gone := (fates.filter (·.2 = .goes)).map (·.1)
  let come := fates.filterMap fun (p, f) =>
    match f with
    | .comes item => some (p, item)
    | .stays | .goes => none
  if !w.canStage || !stage.conflicts.isEmpty || !w.allows come then none
  else
    let stays : Stage := ⟨stage.entries.filter fun e => !gone.contains e.1, []⟩
    let stage := come.foldl (fun stage (p, item) => Stage.put stage p { item := item }) stays
    w.applyFates? stage gone come

/-! ### By force -/

/-- Lets what is staged, and what stands in the directory for it, become what a snapshot holds,
whatever is lost. -/
def reset? (w : Workspace) (s : Snapshot) : Option Workspace := do
  let stage := w.stage
  let gone := (stage.places.eraseDups).filter fun p => (s.at? p).isNone
  let isFine (e : Place × Item) : Bool :=
    match stage.at? e.1, w.standing? e.1 with
    | some old, some n =>
      old.item = e.2 && (old.isHeld || !w.isChanged stage e.1 { old with isIntended := false } n)
    | _, _ => false
  let come := s.filter fun e => !isFine e
  if w.canStage && w.allows s then
    let kept := s.map fun (p, item) => (p, match stage.at? p with
      | some e => if e.item = item then { e with isIntended := false } else { item := item }
      | none => { item := item })
    w.applyFates? ⟨kept, []⟩ gone come
  else none

/-- Stages what a snapshot holds; the directory stays as it is. -/
def stageSnapshot (w : Workspace) (s : Snapshot) : Workspace :=
  let stage := w.stage
  w.putStage ⟨s.map fun (p, item) => (p, match stage.at? p with
    | some e => if e.item = item then { e with isIntended := false } else { item := item }
    | none => { item := item }), []⟩

end Workspace

end GameFixes.Depot
