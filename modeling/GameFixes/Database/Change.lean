import GameFixes.Database.Editing

/-!
# Changes

What becomes of a database when rows are added, changed and removed: triggers do their part, rows
keep the rules of their tables, and references follow what they refer to.
-/

namespace GameFixes.Database

/-! ### Rules of rows -/

/-- What happens to a row that breaks a rule, where nothing can be removed for it. -/
def Edit.break {α : Type} (rule : Rule) : Edit α :=
  throw (if rule = .ignore then .ignored else .failed)

/-- The row with something in the columns that need it, among those that change. -/
def Edit.required (t : Table) (rule : Option Rule) (changes : String → Bool) (r : Row) : Edit Row :=
  t.columns.zipIdx.foldlM (fun r (c, i) => do
    match c.required with
    | none => return r
    | some own =>
      if r.cells[i]?.getD .null ≠ .null || !changes c.name || t.numberColumn = some i then return r
      else
        match rule.getD own with
        | .replace =>
          let v ← match c.default with
            | some e => Edit.value [] e
            | none => pure .null
          if v = .null then Edit.fail
          else return { r with cells := r.cells.set i (c.affinity.apply v) }
        | other => Edit.break other) r

/-- Ends a change if a row breaks one of the rules that are looked at alone. -/
def Edit.checked (t : Table) (rule : Option Rule) (r : Row) : Edit Unit := do
  if t.isStrict && !((t.columns.zip r.cells).all fun (c, v) => c.admits v) then Edit.fail
  t.checks.forM fun e => do
    if (← Edit.value (rowScope t r) e).truth? = some false then
      Edit.break (match rule with
        | some .ignore => .ignore
        | _ => .abort)

/-- The cells of a new row: what is given, and the defaults. -/
def Edit.startCells (t : Table) (given : List (String × Value)) : Edit (List Value) := do
  let cells ← t.columns.mapM fun c => do
    match given.find? fun g => sameName g.1 c.name, c.default with
    | some g, _ => return g.2
    | none, some e => if c.computed.isSome then return .null else Edit.value [] e
    | none, none => return .null
  return t.held cells

/-- The number that is given for a row, if one is. -/
def Table.givenNumber (t : Table) (given : List (String × Value)) : Option Value :=
  let own := (t.numberColumn.bind fun i => t.columns[i]?).map (·.name)
  (given.find? fun g =>
    own.any (sameName g.1) || ((t.position? g.1).isNone && numberNames.contains (lower g.1))).map (·.2)

/-- The integer that is given as a number; null is none. -/
def Edit.numberOf (v : Option Value) : Edit (Option Int) := do
  match v.map (Affinity.integer.apply ·) with
  | none | some Value.null => return none
  | some (Value.integer n) => return some n
  | some _ => Edit.fail

/-- Whether some columns, or what is computed from anything, belong to a key. -/
def Key.concerns (k : Key) (changes : String → Bool) : Bool :=
  k.filter.isSome || k.parts.any fun
    | .column n _ => changes n
    | .expr _ _ => true

/-- The rows that refer to a row, and how they do that. -/
def Edit.followers (t : Table) (r : Row) : Edit (List (String × Int × Foreign × Nat)) := do
  let d := (← get).database
  return (d.referrers t.name).flatMap fun (child, f, i) =>
    child.rows.filterMap fun q =>
      if ((f.values? child q).any fun l => f.leadsTo t l r) then some (child.name, q.id, f, i)
      else none

/-- A change as a part of one that follows a rule. -/
def Change.under (rule : Option Rule) : Change → Change
  | .insert own t columns source upserts => .insert (rule.orElse fun _ => own) t columns source upserts
  | .update own t sets filter => .update (rule.orElse fun _ => own) t sets filter
  | c => c

/-- The columns that all have one value. -/
def allTo (columns : List String) (v : Value) : List (String × Value) := columns.map (·, v)

/-! ### Rows -/

mutual

/-- Lets the triggers of a table do their part in the change of a row. They follow the rule of the
change, if it has one. -/
def fire : (fuel : Nat) → Table → TriggerTime → TriggerEvent → Option Rule →
    (changes : String → Bool) → (old new : Option Row) → Edit Unit
  | 0, _, _, _, _, _, _, _ => Edit.fail
  | fuel + 1, t, time, event, rule, changes, old, new => do
    let s ← get
    let l := s.database.triggers.reverse.filter fun g =>
      sameName g.table t.name && g.time = time && g.event.isAbout event changes &&
        !s.active.contains g.name
    l.forM fun g => do
      let scope := triggerScope t old new
      if ← Edit.holds scope g.condition then
        modify fun s => { s with active := g.name :: s.active }
        tryCatch (g.body.forM fun c => do
            let _ ← run fuel scope (c.under rule))
          fun stop => do
            modify fun s => { s with active := s.active.erase g.name }
            throw stop
        modify fun s => { s with active := s.active.erase g.name }

/-- Removes a row; the result says whether it was there until then. -/
def removeRow : (fuel : Nat) → (name : String) → (id : Int) → (isTold : Bool) → Edit Bool
  | 0, _, _, _ => Edit.fail
  | fuel + 1, name, id, isTold => do
    let t ← Edit.table name
    match t.rows.find? (·.id = id) with
    | none => return false
    | some r =>
      if isTold then fire fuel t .before .delete none (fun _ => true) (some r) none
      let t ← Edit.table name
      if !t.rows.any (·.id = id) then return false
      let followers ← Edit.followers t r
      Edit.modifyRows name fun rows => rows.filter (·.id ≠ id)
      followers.forM fun (child, q, f, i) => do
        match f.onDelete with
        | .none => modify fun s =>
          if f.isDeferred then { s with deferred := ⟨child, q, i⟩ :: s.deferred }
          else { s with pending := ⟨child, q, i⟩ :: s.pending }
        | .restrict => if sameName child name && q = id then pure () else Edit.fail
        | .cascade => let _ ← removeRow fuel child q true
        | .setNull => let _ ← changeRow fuel child q (some .abort) (allTo f.columns .null)
        | .setDefault =>
          let child' ← Edit.table child
          let sets ← f.columns.mapM fun n => do
            match (child'.column? n).bind (·.default) with
            | some e => return (n, ← Edit.value [] e)
            | none => return (n, Value.null)
          let _ ← changeRow fuel child q (some .abort) sets
      if isTold then
        let _ ← Edit.unlessIgnored (fire fuel t .after .delete none (fun _ => true) (some r) none)
      return true

/-- Changes some columns of a row; the result is the row, if it is still there. -/
def changeRow : (fuel : Nat) → (name : String) → (id : Int) → Option Rule →
    List (String × Value) → Edit (Option Row)
  | 0, _, _, _, _ => Edit.fail
  | fuel + 1, name, id, rule, sets => do
    let t ← Edit.table name
    let isSet := fun (n : String) => sets.any fun g => sameName g.1 n
    match t.rows.find? (·.id = id) with
    | none => return none
    | some old =>
      let given ← Edit.numberOf (t.givenNumber sets)
      if (t.givenNumber sets).isSome && given.isNone then Edit.fail
      let made := fun (r : Row) =>
        let cells := (t.columns.zip r.cells).map fun (c, v) =>
          match sets.find? fun g => sameName g.1 c.name with
          | some g => c.affinity.apply g.2
          | none => v
        Edit.computed t (t.numbered ⟨given.getD id, cells⟩)
      let first ← made old
      fire fuel t .before (.update none) rule isSet (some old) (some first)
      let t ← Edit.table name
      match t.rows.find? (·.id = id) with
      | none => return none
      | some current =>
        let r ← made current
        let r ← Edit.required t rule isSet r
        Edit.checked t rule r
        let moved := r.id ≠ id
        if moved && t.rows.any (·.id = r.id) then
          match rule.getD t.numberRule with
          | .replace => let _ ← removeRow fuel name r.id false
          | other => Edit.break other
        t.keyOrder.forM fun (k, _) => do
          if moved || k.concerns isSet then
            let t ← Edit.table name
            let rivals ← Edit.rivals t k r (some id)
            if !rivals.isEmpty then
              match rule.getD k.rule with
              | .replace => rivals.forM fun q => do
                let _ ← removeRow fuel name q.id false
              | other => Edit.break other
        let t ← Edit.table name
        let followers ← Edit.followers t current
        Edit.modifyRows name fun rows =>
          (rows.map fun q => if q.id = id then r else q).mergeSort fun a b => a.id ≤ b.id
        Edit.watch t r.id isSet
        followers.forM fun (child, q, f, i) => do
          let target := f.targetIn t
          let stays := target.all fun n => t.cell? current n = t.cell? r n
          if !stays then
            let values := f.columns.zip (target.map fun n => (t.cell? r n).getD .null)
            match f.onUpdate with
            | .none => modify fun s =>
              if f.isDeferred then { s with deferred := ⟨child, q, i⟩ :: s.deferred }
              else { s with pending := ⟨child, q, i⟩ :: s.pending }
            | .restrict => Edit.fail
            | .cascade => let _ ← changeRow fuel child q (some .abort) values
            | .setNull => let _ ← changeRow fuel child q (some .abort) (allTo f.columns .null)
            | .setDefault => let _ ← changeRow fuel child q (some .abort) (allTo f.columns .null)
        let _ ← Edit.unlessIgnored
          (fire fuel t .after (.update none) rule isSet (some current) (some r))
        return some r

/-- Adds a row, or does what is asked for where it is there already. -/
def addRow : (fuel : Nat) → Scope → (name : String) → List (String × Value) → Option Rule →
    List Upsert → Edit (Option Row)
  | 0, _, _, _, _, _ => Edit.fail
  | fuel + 1, scope, name, given, rule, upserts => do
    let t ← Edit.table name
    let cells ← Edit.startCells t given
    let said ← Edit.numberOf (t.givenNumber given)
    let first ← Edit.computed t (t.numbered ⟨said.getD (-1), cells⟩)
    fire fuel t .before .insert rule (fun _ => true) none (some first)
    let t ← Edit.table name
    let id ← if t.hasNumbers then Edit.numberFor t said
      else pure (t.rows.foldl (fun m r => max m r.id) 0 + 1)
    let r ← Edit.computed t (t.numbered ⟨id, cells⟩)
    let r ← Edit.required t rule (fun _ => true) r
    Edit.checked t rule r
    -- What is asked for comes before what would happen by itself.
    let asked := upserts.filterMap fun u => (t.clash? u).map (·, u)
    let keys := t.keyOrder.map fun (k, i) => (Clash.key i, some k)
    let all := if t.hasNumbers then (Clash.number, none) :: keys else keys
    let named := asked.filterMap fun (c, _) => c.bind fun c => all.find? (·.1 = c)
    let order := named ++ all.filter fun c => !named.any (·.1 = c.1)
    let found ← order.foldlM (fun (found : Option (Row × Upsert)) (clash, k) => do
      if found.isSome then return found
      let t ← Edit.table name
      let rivals ← match k with
        | some k => Edit.rivals t k r none
        | none => pure (t.rows.filter (·.id = r.id))
      match rivals with
      | [] => return none
      | q :: _ =>
        match asked.find? fun (c, _) => c.isNone || c = some clash with
        | some (_, u) => return some (q, u)
        | none =>
          match rule.getD ((k.map (·.rule)).getD t.numberRule) with
          | .replace =>
            rivals.forM fun q => do
              let _ ← removeRow fuel name q.id false
            return none
          | other => Edit.break other) none
    match found with
    | some (q, u) =>
      match u.sets with
      | none => return none
      | some sets =>
        let t ← Edit.table name
        let excluded := { Source.ofRow t (some "excluded") r with isApart := true }
        let s : Scope := ⟨[Source.ofRow t none q, excluded], [], none⟩ :: scope
        if ← Edit.holds s u.filter then
          let values ← sets.mapM fun (n, e) => do return (n, ← Edit.value s e)
          changeRow fuel name q.id (some .abort) values
        else return none
    | none =>
      Edit.modifyRows name fun rows => (rows ++ [r]).mergeSort fun a b => a.id ≤ b.id
      Edit.counted
      let t ← Edit.table name
      Edit.watch t r.id fun _ => true
      let _ ← Edit.unlessIgnored (fire fuel t .after .insert rule (fun _ => true) none (some r))
      return some r

/-- Does what a change says; the result are the rows that were added or changed. -/
def run : (fuel : Nat) → Scope → Change → Edit (List Row)
  | 0, _, _ => Edit.fail
  | fuel + 1, scope, c => do
    match c with
    | .select s =>
      match rowsOf (← get).database depthLimit scope s with
      | .ok _ => return []
      | .error stop => throw stop
    | .insert rule name columns source upserts =>
      let d := (← get).database
      let rows ← match source with
        | none => pure [[]]
        | some s => match rowsOf d depthLimit scope s with
          | .ok rows => pure rows
          | .error stop => throw stop
      match d.table? name, d.view? name with
      | some t, _ =>
        let names := if source.isNone then []
          else columns.getD ((t.columns.filter (·.computed.isNone)).map (·.name))
        let done ← rows.mapM fun r =>
          Edit.unlessIgnored (addRow fuel scope name (names.zip r) rule upserts)
        return done.filterMap Option.join
      | none, some v =>
        let shown := (columnsOf? d depthLimit [] v.query).getD []
        let t : Table := { name := name, columns := shown, hasNumbers := false }
        rows.forM fun r => do
          let cells := match columns with
            | none => r
            | some l => shown.map fun c =>
              (((l.zip r).find? fun g => sameName g.1 c.name).map (·.2)).getD .null
          let _ ← Edit.unlessIgnored
            (fire fuel t .instead .insert rule (fun _ => true) none (some ⟨-1, cells⟩))
        return []
      | none, none => Edit.fail
    | .update rule name sets filter =>
      let t ← Edit.table name
      let rows ← t.rows.filterM fun r => Edit.holds (rowScope t r ++ scope) filter
      let done ← rows.mapM fun r => do
        let now := ((← Edit.table name).rows.find? (·.id = r.id)).getD r
        let work : Edit (Option Row) := do
          let values ← sets.mapM fun (n, e) => do
            return (n, ← Edit.value (rowScope t now ++ scope) e)
          changeRow fuel name r.id rule values
        Edit.unlessIgnored work
      return done.filterMap Option.join
    | .delete name filter =>
      let t ← Edit.table name
      let rows ← t.rows.filterM fun r => Edit.holds (rowScope t r ++ scope) filter
      rows.forM fun r => do
        let _ ← Edit.unlessIgnored (removeRow fuel name r.id true)
      return []

end

/-! ### Statements -/

/-- What a statement leaves: the database, and the references that are looked at in the end. -/
structure Done where
  database : Database
  deferred : List Reference
  /-- The rows that were added or changed, and how many the statement itself did. -/
  rows : List Row
  changes : Nat

/-- Does what a statement says. -/
def execute? (d : Database) (deferred : List Reference) (c : Change) : Option Done :=
  let work : Edit (List Row) := do
    let rows ← run depthLimit [] c
    Edit.settle
    return rows
  match work.run.run { database := d, deferred := deferred } with
  | (.ok rows, s) => some ⟨s.database, s.deferred, rows, s.changes⟩
  | (.error _, _) => none

end GameFixes.Database
