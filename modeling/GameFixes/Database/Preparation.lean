import GameFixes.Database.Editing

/-!
# Preparation

A change is prepared before it is done: every name in it and in the triggers that it can set off has
to mean something, and references have to lead to columns in which rows differ.
-/

namespace GameFixes.Database

/-- The source that a table is while no row of it is looked at. -/
def Source.ofTable (t : Table) (nickname : Option String) (isApart : Bool) : Source :=
  { name := nickname.getD t.name, columns := t.columns, hasNumbers := t.hasNumbers, isApart := isApart }

/-- The scope of what a trigger on a table does. -/
def triggerPlan (t : Table) (event : TriggerEvent) : Scope :=
  let old := Source.ofTable t (some "old") true
  let new := Source.ofTable t (some "new") true
  match event with
  | .insert => [⟨[new], [], none⟩]
  | .delete => [⟨[old], [], none⟩]
  | .update _ => [⟨[old, new], [], none⟩]

/-- Whether a column can be given a value. -/
def Table.takes (t : Table) (name : String) : Bool :=
  match t.column? name with
  | some c => c.computed.isNone
  | none => t.hasNumbers && numberNames.contains (lower name)

/-- Whether some columns are among those that change; all of them may. -/
def isAmong (changed : Option (List String)) (columns : List String) : Bool :=
  changed.all fun l => columns.any fun n => l.any (sameName n)

/-- Whether the references of a table and those to it lead to columns in which rows differ, as far as
columns that change matter. -/
def referencesFit (d : Database) (t : Table) (changed : Option (List String)) : Bool :=
  (t.foreigns.all fun f => !isAmong changed f.columns || (d.table? f.target).any f.fits) &&
    (d.referrers t.name).all fun (_, f, _) => !isAmong changed (f.targetIn t) || f.fits t

/-- Whether an upsert is about something in which rows differ, and what it changes is clear. -/
def Upsert.isPrepared (u : Upsert) (d : Database) (t : Table) (s : Scope) : Bool :=
  let inside : Scope :=
    ⟨[Source.ofTable t none false, Source.ofTable t (some "excluded") true], [], none⟩ :: s
  (t.clash? u).isSome && u.filter.all (isClear d depthLimit inside) &&
    (u.sets.getD []).all fun (n, e) => t.takes n && isClear d depthLimit inside e

/-- The events that a change can set off. -/
def eventsOf : Change → List TriggerEvent
  | .insert _ _ _ _ upserts =>
    .insert :: upserts.filterMap fun u => u.sets.map fun l => .update (some (l.map (·.1)))
  | .update _ _ sets _ => [.update (some (sets.map (·.1)))]
  | .delete _ _ => [.delete]
  | .select _ => []

/-- Whether a trigger is for an event. -/
def Trigger.isFor (g : Trigger) (event : TriggerEvent) : Bool :=
  match event with
  | .update (some l) => g.event.isAbout event fun n => l.any (sameName n)
  | event => g.event.isAbout event fun _ => true

/-- Whether rows of a table can go away when a change adds others. -/
def Change.removes (t : Table) : Change → Bool
  | .insert rule _ _ _ upserts =>
    let asked := upserts.filterMap t.clash?
    let isLeft := fun c => !asked.contains none && !asked.contains (some c)
    rule = some .replace || (rule.isNone && ((t.numberRule = .replace && isLeft .number) ||
      t.keyOrder.any fun (k, i) => k.rule = .replace && isLeft (.key i)))
  | .delete _ _ => true
  | _ => false

/-- Whether it is clear what a change means, and what the triggers mean that it sets off. Those of
`active` are at work already. -/
def isPrepared (d : Database) : (fuel : Nat) → (active : List String) → Scope → Change → Bool
  | 0, _, _, _ => false
  | fuel + 1, active, s, c =>
    let triggered := fun (t : Table) (events : List TriggerEvent) =>
      (d.triggers.filter fun g => sameName g.table t.name && events.any g.isFor &&
        !active.contains g.name).all fun g =>
          let scope := triggerPlan t g.event
          g.condition.all (isClear d depthLimit scope) &&
            g.body.all fun c => isPrepared d fuel (g.name :: active) scope c
    -- What refers to rows that go away changes with them.
    let following := fun (t : Table) =>
      (d.referrers t.name).all fun (child, f, _) =>
        match f.onDelete with
        | .none | .restrict => true
        | .cascade => referencesFit d child none && triggered child [.delete]
        | .setNull | .setDefault =>
          referencesFit d child (some f.columns) &&
            triggered child [.update (some f.columns)]
    match c with
    | .select q => (columnsOf? d depthLimit s q).isSome
    | .insert _ name columns source upserts =>
      let given : Option (Option Nat) := match source with
        | none => some none
        | some q => (columnsOf? d depthLimit s q).map fun l => some l.length
      match given, d.table? name, d.view? name with
      | some count, some t, _ =>
        let free := (t.columns.filter (·.computed.isNone)).map (·.name)
        let names := columns.getD free
        names.all t.takes && count.all (· = names.length) &&
          upserts.all (·.isPrepared d t s) && referencesFit d t none &&
          triggered t (eventsOf c) && (!c.removes t || following t)
      | some count, none, some v =>
        match columnsOf? d depthLimit [] v.query with
        | none => false
        | some shown =>
          let t : Table := { name := v.name, columns := shown, hasNumbers := false }
          let names := columns.getD (shown.map (·.name))
          upserts.isEmpty && names.all t.takes && count.all (· = names.length) &&
            (d.triggers.any fun g =>
              sameName g.table name && g.time = .instead && g.isFor .insert) &&
            triggered t (eventsOf c)
      | _, _, _ => false
    | .update _ name sets filter =>
      match d.table? name with
      | none => false
      | some t =>
        let inside : Scope := ⟨[Source.ofTable t none false], [], none⟩ :: s
        filter.all (isClear d depthLimit inside) &&
          (sets.all fun (n, e) => t.takes n && isClear d depthLimit inside e) &&
          referencesFit d t (some (sets.map (·.1))) &&
          triggered t (eventsOf c)
    | .delete name filter =>
      match d.table? name with
      | none => false
      | some t =>
        let inside : Scope := ⟨[Source.ofTable t none false], [], none⟩ :: s
        filter.all (isClear d depthLimit inside) && referencesFit d t none &&
          triggered t (eventsOf c) && following t

end GameFixes.Database
