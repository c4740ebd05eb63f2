import GameFixes.Database.Plan

/-!
# Queries

The values of expressions and the rows of queries.
-/

namespace GameFixes.Database

/-- The affinity with which two expressions are compared. -/
def comparedAs (a b : Option Affinity) : Option Affinity :=
  match a, b with
  | some x, some y => if x.isNumeric || y.isNumeric then some .numeric else none
  | some x, none | none, some x => if x = .blob then none else some x
  | none, none => none

/-- Two values as they are compared. -/
def madeAlike (affinity : Option Affinity) (v w : Value) : Value × Value :=
  match affinity with
  | none => (v, w)
  | some .text => (v.asText, w.asText)
  | some _ => (v.asNumber, w.asNumber)

/-- Whether a comparison of two values is true. -/
def compared (op : BinaryOp) (c : Collation) (v w : Value) : Option Bool :=
  let order := Value.compare c v w
  match op with
  | .is => some (if v = .null || w = .null then v == w else order == .eq)
  | .isNot => some (!(if v = .null || w = .null then v == w else order == .eq))
  | _ =>
    if v = .null || w = .null then none
    else
      match op with
      | .equal => some (order == .eq)
      | .unequal => some (order != .eq)
      | .less => some (order == .lt)
      | .atMost => some (order != .gt)
      | .greater => some (order == .gt)
      | .atLeast => some (order != .lt)
      | _ => none

/-- The collation with which two expressions are compared. -/
def comparedBy (s : Scope) (a b : Expr) : Collation :=
  ((a.saidCollation?.orElse fun _ => b.saidCollation?).orElse fun _ =>
    ((s.cellOf a).bind (·.collation)).orElse fun _ => (s.cellOf b).bind (·.collation)).getD .binary

/-- Whether a comparison of the values of two expressions is true. -/
def comparison (s : Scope) (op : BinaryOp) (a b : Expr) (v w : Value) : Option Bool :=
  let affinity := comparedAs ((s.cellOf a).bind (·.affinity)) ((s.cellOf b).bind (·.affinity))
  let (v, w) := madeAlike affinity v w
  compared op (comparedBy s a b) v w

/-- Whether an operation is a comparison. -/
def BinaryOp.isComparison (op : BinaryOp) : Bool :=
  [.equal, .unequal, .less, .atMost, .greater, .atLeast, .is, .isNot].contains op

/-- Whether some value is true, as far as that is known. -/
def anyTrue (l : List (Option Bool)) : Option Bool := l.foldl Value.or3 (some false)

/-- The value of a type. -/
def Value.cast (type : String) (v : Value) : Value :=
  match v with
  | .null => .null
  | v =>
    match Affinity.ofType type with
    | .text => .text ((v.bytes?).getD [])
    | .blob => .blob ((v.bytes?).getD [])
    | .integer => (v.integer?.map Value.integer).getD .null
    | .real => v.number.asReal
    | .numeric => v.number.asInteger

/-- Rows without repetitions. -/
def distinctRows (l : List (List Value × Frame)) : List (List Value × Frame) :=
  (l.foldl (fun (seen : List (List Value × Frame)) r =>
    if seen.any (·.1 = r.1) then seen else r :: seen) []).reverse

/-- The rows of two queries put together. -/
def combined (op : SetOp) (a b : List (List Value × Frame)) : List (List Value × Frame) :=
  match op with
  | .unionAll => a ++ b
  | .union => distinctRows (a ++ b)
  | .intersect => distinctRows (a.filter fun r => b.any (·.1 = r.1))
  | .except => distinctRows (a.filter fun r => !b.any (·.1 = r.1))

/-- Whether the keys of a row come before those of another one, or are the same. -/
def keysAtMost : List (Value × Collation × Bool × Option Bool) →
    List (Value × Collation × Bool × Option Bool) → Bool
  | (v, c, isDown, nullsLast) :: a, (w, _) :: b =>
    let isLast := nullsLast.getD isDown
    if v = .null && w ≠ .null then !isLast
    else if w = .null && v ≠ .null then isLast
    else
      match Value.compare c v w with
      | .eq => keysAtMost a b
      | .lt => !isDown
      | .gt => isDown
  | _, _ => true

mutual

/-- The value of an expression. -/
def eval (d : Database) : (fuel : Nat) → Scope → Expr → Except Stop Value
  | 0, _, _ => .error .failed
  | fuel + 1, s, e => do
    let value := eval d fuel s
    match e with
    | .value v => return v
    | .raise isIgnored => .error (if isIgnored then .ignored else .failed)
    | .column q n isLoose =>
      match Scope.find q n s with
      | (.cell c, _) => return c.value
      | (.nickname e, f :: fs) => eval d fuel ({ f with aliases := [] } :: fs) e
      | _ => if isLoose then return .ofText n else .error .failed
    | .unary op e =>
      let v ← value e
      match op with
      | .plus => return v
      | .minus => return v.negated
      | .not => return .ofTruth (v.truth?.map (!·))
      | .complement => return (v.integer?.map fun n => .integer (-n - 1)).getD .null
      | .isNull => return .ofTruth (some (v = .null))
    | .binary .and a b =>
      let x := (← value a).truth?
      if x = some false then return .ofTruth x
      return .ofTruth (Value.and3 x (← value b).truth?)
    | .binary .or a b =>
      let x := (← value a).truth?
      if x = some true then return .ofTruth x
      return .ofTruth (Value.or3 x (← value b).truth?)
    | .binary op a b =>
      let v ← value a
      let w ← value b
      if op.isComparison then return .ofTruth (comparison s op a b v w)
      return Value.operate op v w
    | .between e low high =>
      let v ← value e
      let x := comparison s .atLeast e low v (← value low)
      return .ofTruth (Value.and3 x (comparison s .atMost e high v (← value high)))
    | .among e l =>
      let v ← value e
      let affinity := (s.cellOf e).bind (·.affinity)
      let found ← l.mapM fun x => do
        let (v, w) := madeAlike (comparedAs affinity none) v (← value x)
        return compared .equal (comparedBy s e e) v w
      return .ofTruth (anyTrue found)
    | .amongRows e q =>
      let v ← value e
      let rows ← rowsOf d fuel s q
      let affinity := (s.cellOf e).bind (·.affinity)
      return .ofTruth (anyTrue (rows.map fun r =>
        let (v, w) := madeAlike (comparedAs affinity none) v (r.headD .null)
        compared .equal (comparedBy s e e) v w))
    | .exists q => return .ofTruth (some !(← rowsOf d fuel s q).isEmpty)
    | .scalar q => return ((← rowsOf d fuel s q).headD []).headD .null
    | .like isGlob e p x =>
      let escape ← x.mapM value
      return .ofTruth (Value.matches? isGlob (← value e) (← value p) escape)
    | .case base arms last =>
      let v ← base.mapM value
      let found ← arms.foldlM (fun (found : Option Value) (c, r) => do
        if found.isSome then return found
        let w ← value c
        let holds : Bool := match base, v with
          | some b, some v => comparison s .equal b c v w == some true
          | _, _ => w.truth? == some true
        if holds then return some (← value r) else return none) none
      match found, last with
      | some v, _ => return v
      | none, some e => value e
      | none, none => return .null
    | .cast e type => return Value.cast type (← value e)
    | .collate e _ => value e
    | .call n isDistinct args =>
      match s with
      | f :: fs =>
        match f.group, isGroupCall n args with
        | some rows, true =>
          let l ← rows.mapM fun row =>
            (args.getD []).mapM fun e =>
              eval d fuel ({ f with sources := row, group := none } :: fs) e
          return Value.callOnGroup n rows.length (if isDistinct then l.eraseDups else l)
        | _, _ => return Value.call n (← (args.getD []).mapM value)
      | [] => return Value.call n (← (args.getD []).mapM value)

/-- The rows of a query. -/
def rowsOf (d : Database) : (fuel : Nat) → Scope → Select → Except Stop (List (List Value))
  | 0, _, _ => .error .failed
  | fuel + 1, s, .mk first more order limit offset => do
    let start ← coreRows d fuel s first
    let rows ← more.foldlM (fun rows (op, c) => do
      return combined op rows (← coreRows d fuel s c)) start
    let names := ((columnsOf? d depthLimit s (.mk first more [] none none)).getD []).map (·.name)
    let sorted ← if order.isEmpty then pure rows
      else do
        let keyed ← rows.mapM fun (r, f) => do
          let keys ← order.mapM fun (.mk e isDown nullsLast) => do
            let index := match e with
              | .value (.integer n) => some (n.toNat - 1)
              | .column none n _ => names.findIdx? (sameName n)
              | _ => none
            let v ← match index with
              | some i => pure (r[i]?.getD .null)
              | none => eval d fuel (f :: s) e
            return (v, comparedBy (f :: s) e e, isDown, nullsLast)
          return (keys, r)
        pure ((keyed.mergeSort fun a b => keysAtMost a.1 b.1).map fun (_, r) => (r, ⟨[], [], none⟩))
    let skip ← offset.mapM (eval d fuel s)
    let most ← limit.mapM (eval d fuel s)
    let rest := (sorted.map (·.1)).drop ((skip.bind Value.integer?).getD 0).toNat
    match most.bind Value.integer? with
    | some n => return if n < 0 then rest else rest.take n.toNat
    | none => return rest

/-- The rows of a query without an order, each with its frame. -/
def coreRows (d : Database) : (fuel : Nat) → Scope → Core →
    Except Stop (List (List Value × Frame))
  | 0, _, _ => .error .failed
  | fuel + 1, s, .rows l => do
    let rows ← l.mapM fun r => r.mapM (eval d fuel s)
    return rows.map (·, ⟨[], [], none⟩)
  | fuel + 1, s, .query isDistinct results joins filter groups having => do
    let aliases := aliasesOf results
    let all ← joined d fuel s joins
    let kept ← all.filterM fun row => do
      match filter with
      | none => return true
      | some e => return (← eval d fuel (⟨row, aliases, none⟩ :: s) e).truth? = some true
    let isGrouped := !groups.isEmpty || having.isSome || results.any fun
      | .one e _ => hasGroupCall depthLimit e
      | _ => false
    let frames ← if !isGrouped then pure (kept.map fun row => (⟨row, aliases, none⟩ : Frame))
      else do
        let keyed ← kept.mapM fun row => do
          return (← groups.mapM (eval d fuel (⟨row, aliases, none⟩ :: s)), row)
        let keys := (keyed.map (·.1)).eraseDups
        let parts := if groups.isEmpty then [kept]
          else keys.map fun k => (keyed.filter (·.1 = k)).map (·.2)
        let empty ← emptyRow d fuel s joins
        let frames := parts.map fun rows => (⟨rows.headD empty, aliases, some rows⟩ : Frame)
        frames.filterM fun f => do
          match having with
          | none => return true
          | some e => return (← eval d fuel (f :: s) e).truth? = some true
    let rows ← frames.mapM fun f => do
      let parts ← results.mapM fun r =>
        match r with
        | .all => pure (f.sources.flatMap fun x => x.shown.map fun (_, i) => x.cells[i]?.getD .null)
        | .allOf n => pure (((f.sources.find? fun x => sameName x.name n).map (·.cells)).getD [])
        | .one e _ => (eval d fuel (f :: s) e).map ([·])
      return (parts.flatten, f)
    return if isDistinct then distinctRows rows else rows

/-- The row that stands for none where a row is needed. -/
def emptyRow (d : Database) : (fuel : Nat) → Scope → List Join → Except Stop (List Source)
  | 0, _, _ => .error .failed
  | fuel + 1, s, joins =>
    joins.foldlM (fun l j =>
      match joined? d fuel s l j with
      | some (source, _) => return l ++ [source.missing]
      | none => .error .failed) []

/-- The rows of tables put side by side. -/
def joined (d : Database) : (fuel : Nat) → Scope → List Join → Except Stop (List (List Source))
  | 0, _, _ => .error .failed
  | fuel + 1, s, joins => do
    let step := fun (state : List (List Source) × List Source) (j : Join) => do
      let (rows, left) := state
      match j with
      | .mk kind _ origin nickname condition _ =>
        match joined? d fuel s left j with
        | none => Except.error Stop.failed
        | some (source, _) =>
          let partners := (← sourceRows d fuel s origin nickname).map fun x =>
            { x with shared := source.shared }
          let pairs ← rows.mapM fun row => do
            let found ← partners.zipIdx.filterM fun (x, _) => do
              let equal := source.shared.all fun n =>
                match (row.flatMap (·.find none n)).head?,
                    x.columns.findIdx? fun c => sameName c.name n with
                | some c, some i =>
                  compared .equal (c.collation.getD .binary) c.value (x.cells[i]?.getD .null) = some true
                | _, _ => false
              match condition with
              | none => return equal
              | some e =>
                return equal && (← eval d fuel (⟨row ++ [x], [], none⟩ :: s) e).truth? = some true
            return (row, found)
          let inner := pairs.flatMap fun (row, found) =>
            if found.isEmpty && (kind = .left || kind = .full) then [row ++ [source.missing]]
            else found.map fun (x, _) => row ++ [x]
          let used := pairs.flatMap fun (_, found) => found.map (·.2)
          let alone := if kind = .right || kind = .full then
              partners.zipIdx.filterMap fun (x, i) =>
                if used.contains i then none else some (left.map Source.missing ++ [x])
            else []
          return (inner ++ alone, left ++ [source])
    return (← joins.foldlM step ([[]], [])).1

/-- The rows of a table, a view or a query. -/
def sourceRows (d : Database) : (fuel : Nat) → Scope → Origin → Option String →
    Except Stop (List Source)
  | 0, _, _, _ => .error .failed
  | fuel + 1, s, origin, nickname => do
    match source? d depthLimit s origin nickname with
    | none => .error .failed
    | some source =>
      match origin with
      | .select q => return (← rowsOf d fuel s q).map fun r => { source with cells := r }
      | .table n =>
        match d.table? n, d.view? n with
        | some t, _ =>
          if t.isBroken then .error .failed else return t.rows.map (Source.ofRow t nickname)
        | none, some v =>
          return (← rowsOf d fuel [] v.query).map fun r => { source with cells := r }
        | none, none => .error .failed

end

end GameFixes.Database
