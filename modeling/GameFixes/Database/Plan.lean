import GameFixes.Database.Scope

/-!
# Plans

Before anything is asked or changed it has to be clear what all names mean: a query that names what
is not there is refused whatever the rows are.
-/

namespace GameFixes.Database

/-- What an expression is about if it is one column, perhaps with another collation. -/
def Scope.cellOf (s : Scope) : Expr → Option Cell
  | .column q n _ =>
    match Scope.find q n s with
    | (.cell c, _) => some c
    | _ => none
  | .cast _ type => some ⟨.null, some (.ofType type), none⟩
  | .collate e n => some { s.cellOf e |>.getD ⟨.null, none, none⟩ with collation := Collation.ofName? n }
  | .unary .plus e => (s.cellOf e).map fun c => { c with affinity := none }
  | _ => none

/-- The collation that an expression asks for. -/
def Expr.saidCollation? : Expr → Option Collation
  | .collate _ n => Collation.ofName? n
  | .unary _ e => e.saidCollation?
  | .binary .join a b => (a.saidCollation?).orElse fun _ => b.saidCollation?
  | _ => none

/-- Whether a function is one of many rows. -/
def isGroupCall (name : String) (args : Option (List Expr)) : Bool :=
  let count := (args.getD []).length
  match Value.groupFunctions.lookup name with
  | some (least, most) => least ≤ count && count ≤ most && (args.isSome || name = "count")
  | none => false

/-- Whether an expression needs many rows. -/
def hasGroupCall : (fuel : Nat) → Expr → Bool
  | 0, _ => false
  | fuel + 1, e =>
    let has := hasGroupCall fuel
    match e with
    | .call n _ args => isGroupCall n args || (args.getD []).any has
    | .unary _ e | .cast e _ | .collate e _ => has e
    | .binary _ a b => has a || has b
    | .between a b c => has a || has b || has c
    | .among e l => has e || l.any has
    | .amongRows e _ => has e
    | .like _ a b c => has a || has b || c.any has
    | .case base arms last =>
      base.any has || (arms.any fun (c, v) => has c || has v) || last.any has
    | _ => false

/-- How deep queries, views and expressions can be in each other. -/
def depthLimit : Nat := 200

/-- The name under which an expression is asked for. -/
def resultName (e : Expr) (nickname : Option String) : String :=
  match nickname, e with
  | some a, _ => a
  | none, .column _ n _ => n
  | none, _ => ""

/-- The column that an expression is asked for as. -/
def resultColumn (s : Scope) (e : Expr) (nickname : Option String) : Column :=
  let c := (s.cellOf e).getD ⟨.null, none, none⟩
  { name := resultName e nickname, affinity := c.affinity.getD .blob
    collation := c.collation.getD .binary }

/-- The columns of a source that are asked for with all others. -/
def Source.shown (s : Source) : List (Column × Nat) :=
  s.columns.zipIdx.filter fun c => !s.shared.any (sameName c.1.name)

/-- The columns that two tables have in common if that is asked for. -/
def sharedColumns (isNatural : Bool) (shared : List String) (left : List Source) (right : Source) :
    List String :=
  if isNatural then
    (right.columns.map (·.name)).filter fun n =>
      left.any fun s => s.columns.any fun c => sameName c.name n
  else shared

/-- The names that a query gives to what it asks for. -/
def aliasesOf (results : List Result) : List (String × Expr) :=
  results.filterMap fun
    | .one e (some a) => some (a, e)
    | _ => none

mutual

/-- Whether it is clear what an expression means. -/
def isClear (d : Database) : (fuel : Nat) → Scope → Expr → Bool
  | 0, _, _ => false
  | fuel + 1, s, e =>
    let clear := isClear d fuel s
    match e with
    | .value _ | .raise _ => true
    | .column q n isLoose =>
      match (Scope.find q n s).1 with
      | .cell _ | .nickname _ => true
      | .missing => isLoose && q.isNone
      | .unclear => false
    | .unary _ e | .cast e _ => clear e
    | .collate e n => (Collation.ofName? n).isSome && clear e
    | .binary _ a b => clear a && clear b
    | .between a b c => clear a && clear b && clear c
    | .among e l => clear e && l.all clear
    | .amongRows e q => clear e && ((columnsOf? d fuel s q).any fun l => l.length = 1)
    | .exists q => (columnsOf? d fuel s q).isSome
    | .scalar q => (columnsOf? d fuel s q).any fun l => l.length = 1
    | .like _ a b c => clear a && clear b && c.all clear
    | .case base arms last =>
      base.all clear && (arms.all fun (c, v) => clear c && clear v) && last.all clear
    | .call n _ args =>
      let l := args.getD []
      l.all clear &&
        ((isGroupCall n args && s.any (·.group.isSome)) ||
          match Value.functions.lookup n with
          | some (least, most) => args.isSome && least ≤ l.length && l.length ≤ most
          | none => false)

/-- The columns of a query, if it is clear what it means. -/
def columnsOf? (d : Database) : (fuel : Nat) → Scope → Select → Option (List Column)
  | 0, _, _ => none
  | fuel + 1, s, .mk first more order limit offset => do
    let (columns, frame) ← coreColumns? d fuel s first
    let rest ← more.mapM fun (_, c) => coreColumns? d fuel s c
    let isKnown : Term → Bool := fun (.mk e _ _) =>
      match e with
      | .value (.integer n) => 1 ≤ n && n ≤ columns.length
      | .column none n _ =>
        (columns.any fun c => sameName c.name n) || (more.isEmpty && isClear d fuel (frame :: s) e)
      | e => more.isEmpty && isClear d fuel (frame :: s) e
    if rest.all (fun r => r.1.length = columns.length) && order.all isKnown &&
        limit.all (isClear d fuel s) && offset.all (isClear d fuel s) then return columns
    else none

/-- The columns of a query without an order, and the frame in which they are computed. -/
def coreColumns? (d : Database) : (fuel : Nat) → Scope → Core → Option (List Column × Frame)
  | 0, _, _ => none
  | fuel + 1, s, .rows l =>
    match l with
    | [] => none
    | r :: _ =>
      if l.all fun r' => r'.length = r.length && r'.all (isClear d fuel s) then
        some (r.zipIdx.map fun (_, i) => { name := "column" ++ toString (i + 1) }, ⟨[], [], none⟩)
      else none
  | fuel + 1, s, .query _ results joins filter groups having => do
    let sources ← joins.foldlM (fun l j => do
      let (source, condition) ← joined? d fuel s l j
      let l := l ++ [source]
      if condition.all (isClear d fuel (⟨l, [], none⟩ :: s)) then some l else none)
      ([] : List Source)
    let plain : Frame := ⟨sources, aliasesOf results, none⟩
    let frame : Frame := { plain with group := some [] }
    let shown ← results.mapM fun r =>
      match r with
      | .all => if sources.isEmpty then none
          else some (sources.flatMap fun x => x.shown.map (·.1))
      | .allOf n => (sources.find? fun x => sameName x.name n).map (·.columns)
      | .one e a =>
        if isClear d fuel (frame :: s) e then some [resultColumn (plain :: s) e a] else none
    if filter.all (isClear d fuel (plain :: s)) && groups.all (isClear d fuel (plain :: s)) &&
        having.all (isClear d fuel (frame :: s)) then
      return (shown.flatten, frame)
    else none

/-- The source that is put beside others, and what has to hold for it. -/
def joined? (d : Database) : (fuel : Nat) → Scope → List Source → Join →
    Option (Source × Option Expr)
  | 0, _, _, _ => none
  | fuel + 1, s, left, .mk _ isNatural origin nickname condition shared => do
    let source ← source? d fuel s origin nickname
    let common := sharedColumns isNatural shared left source
    if common.all fun n => (source.columns.any fun c => sameName c.name n) &&
        left.any fun l => l.columns.any fun c => sameName c.name n then
      return ({ source with shared := common }, condition)
    else none

/-- The source that a table, a view or a query is, without a row. -/
def source? (d : Database) : (fuel : Nat) → Scope → Origin → Option String → Option Source
  | 0, _, _, _ => none
  | fuel + 1, s, .select q, nickname => do
    let columns ← columnsOf? d fuel s q
    return { name := nickname.getD "", columns := columns, hasNumbers := false }
  | fuel + 1, _, .table n, nickname =>
    match d.table? n, d.view? n with
    | some t, _ =>
      some { name := nickname.getD t.name, columns := t.columns, hasNumbers := t.hasNumbers }
    | none, some v => do
      let columns ← columnsOf? d fuel [] v.query
      let named ← match v.columns with
        | none => some columns
        | some names =>
          if names.length = columns.length then
            some ((names.zip columns).map fun (n, c) => { c with name := n })
          else none
      return { name := nickname.getD v.name, columns := named, hasNumbers := false }
    | none, none => none

end

end GameFixes.Database
