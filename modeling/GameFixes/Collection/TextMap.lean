/-!
# Maps with text keys

Finite maps from strings, kept as a list in ascending order of the keys, so that two maps with the
same bindings are equal. The order of strings is that of their code points, which is also the order
of their UTF-8 bytes. A set of strings is a map to the unit type.
-/

namespace GameFixes

/-- A finite map from strings, its bindings in strictly ascending order of the keys. -/
structure TextMap (α : Type) where
  entries : List (String × α) := []
  ascending : entries.Pairwise (fun a b => a.1 < b.1) := by exact .nil
  deriving DecidableEq

namespace TextMap

variable {α : Type}

instance : Inhabited (TextMap α) := ⟨{}⟩
instance : EmptyCollection (TextMap α) := ⟨{}⟩

@[ext] theorem ext {m n : TextMap α} (h : m.entries = n.entries) : m = n := by
  cases m; cases n; cases h; rfl

/-- The value of the first binding of `k` in a list. -/
def lookup (k : String) : List (String × α) → Option α
  | [] => none
  | (k', v) :: r => if k' = k then some v else lookup k r

@[simp] theorem lookup_nil (k : String) : lookup k ([] : List (String × α)) = none := rfl

theorem lookup_cons (k k' : String) (v : α) (r : List (String × α)) :
    lookup k ((k', v) :: r) = if k' = k then some v else lookup k r := rfl

theorem lookup_eq_none_of_lt {k : String} {l : List (String × α)} (h : ∀ e ∈ l, k < e.1) :
    lookup k l = none := by
  induction l with
  | nil => rfl
  | cons e l ih =>
    obtain ⟨he, hl⟩ := List.forall_mem_cons.1 h
    rw [lookup_cons, if_neg fun (e' : e.1 = k) => String.lt_irrefl k (by simp [e'] at he), ih hl]

/-- The value bound to a key. -/
def get? (m : TextMap α) (k : String) : Option α := lookup k m.entries

/-- Whether a key is bound. -/
def contains (m : TextMap α) (k : String) : Bool := m.entries.any (·.1 = k)

/-- Whether nothing is bound. -/
def isEmpty (m : TextMap α) : Bool := m.entries.isEmpty

/-- The bound keys, in ascending order. -/
def keys (m : TextMap α) : List String := m.entries.map (·.1)

/-- The values, in ascending order of their keys. -/
def values (m : TextMap α) : List α := m.entries.map (·.2)

/-- Changes the value at `k` by `f` in an ascending list, giving it a place if it has none. -/
def alterList (k : String) (f : Option α → α) : List (String × α) → List (String × α)
  | [] => [(k, f none)]
  | (k', v) :: r =>
    if k < k' then (k, f none) :: (k', v) :: r
    else if k = k' then (k, f (some v)) :: r
    else (k', v) :: alterList k f r

theorem mem_alterList_key {k : String} {f : Option α → α} {l : List (String × α)}
    {e : String × α} (h : e ∈ alterList k f l) : e.1 = k ∨ e ∈ l := by
  fun_induction alterList k f l with
  | case1 => simp_all
  | case2 => simp_all; grind
  | case3 => simp_all; grind
  | case4 k' v r h1 h2 ih => simp_all; grind

theorem ascending_alterList (k : String) (f : Option α → α) {l : List (String × α)}
    (h : l.Pairwise fun a b => a.1 < b.1) :
    (alterList k f l).Pairwise fun a b => a.1 < b.1 := by
  fun_induction alterList k f l with
  | case1 => simp
  | case2 k' v r hk =>
    refine List.pairwise_cons.2 ⟨fun e he => ?_, h⟩
    rcases List.mem_cons.1 he with rfl | he
    · exact hk
    · exact String.lt_trans hk ((List.pairwise_cons.1 h).1 e he)
  | case3 v r hk => simpa using h
  | case4 k' v r hk hne ih =>
    obtain ⟨hr, h⟩ := List.pairwise_cons.1 h
    refine List.pairwise_cons.2 ⟨fun e he => ?_, ih h⟩
    rcases mem_alterList_key he with e' | he
    · simpa [e'] using Std.lt_of_le_of_ne (String.not_lt.1 hk) (Ne.symm hne)
    · exact hr e he

/-- The map in which `k` is bound to `f` of what it was bound to before. -/
def alter (m : TextMap α) (k : String) (f : Option α → α) : TextMap α :=
  ⟨alterList k f m.entries, ascending_alterList k f m.ascending⟩

/-- The map in which `k` is bound to `v`, whatever it was bound to before. -/
def insert (m : TextMap α) (k : String) (v : α) : TextMap α := m.alter k fun _ => v

/-- The map of a list of bindings; of several for one key the last counts. -/
def ofList (l : List (String × α)) : TextMap α :=
  l.foldl (fun m (e : String × α) => m.insert e.1 e.2) ∅

theorem lookup_alterList (k j : String) (f : Option α → α) {l : List (String × α)}
    (h : l.Pairwise fun a b => a.1 < b.1) :
    lookup j (alterList k f l) = if j = k then some (f (lookup k l)) else lookup j l := by
  fun_induction alterList k f l with
  | case1 =>
    by_cases e : j = k
    · subst e
      simp [lookup_cons]
    · simp [lookup_cons, e, Ne.symm e]
  | case2 k' v r hk =>
    have hn : lookup k ((k', v) :: r) = none := lookup_eq_none_of_lt fun e he => by
      rcases List.mem_cons.1 he with rfl | he
      · exact hk
      · exact String.lt_trans hk ((List.pairwise_cons.1 h).1 e he)
    rw [lookup_cons, hn]
    by_cases e : j = k
    · simp [e]
    · simp [e, Ne.symm e]
  | case3 v r hk =>
    by_cases e : j = k
    · subst e
      simp [lookup_cons]
    · simp [lookup_cons, e, Ne.symm e]
  | case4 k' v r hk hne ih =>
    rw [lookup_cons, ih (List.pairwise_cons.1 h).2]
    by_cases e : k' = j
    · subst e; simp [lookup_cons, Ne.symm hne]
    · simp [lookup_cons, e, Ne.symm hne]

/-- Changing one key changes what it is bound to and nothing else. -/
@[simp] theorem get?_alter (m : TextMap α) (k j : String) (f : Option α → α) :
    (m.alter k f).get? j = if j = k then some (f (m.get? k)) else m.get? j :=
  lookup_alterList k j f m.ascending

@[simp] theorem get?_insert (m : TextMap α) (k j : String) (v : α) :
    (m.insert k v).get? j = if j = k then some v else m.get? j :=
  get?_alter m k j _

end TextMap

/-- A finite set of strings. -/
abbrev TextSet := TextMap Unit

namespace TextSet

/-- The elements, in ascending order. -/
def toList (s : TextSet) : List String := s.keys

/-- The set with one more element. -/
def add (s : TextSet) (k : String) : TextSet := s.insert k ()

/-- The set of the elements of a list. -/
def ofList (l : List String) : TextSet := l.foldl add ∅

end TextSet

end GameFixes
