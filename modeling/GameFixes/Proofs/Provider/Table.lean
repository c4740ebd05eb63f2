import GameFixes.Proofs.Collection

/-!
# Numbered tables

A log of names that are given to keys, one attempt after another, and the table that is kept of it.
The table has a row for each key, in the order of the first attempts, with the number of the first
attempt and the name that was given last.

* `table_concat_of_mem` and `table_concat_of_notMem`: what one more attempt does to the table;
* `table_append_again`: the same attempts once more leave it as it is;
* `find?_table`: rows are found by their keys;
* `pairwise_table`: rows stand by ascending number.
-/

namespace GameFixes.Provider

variable {κ α : Type}

/-- The keys of a log, one for each attempt. -/
def keysOf (log : List (κ × String)) : List κ := log.map (·.1)

@[simp] theorem keysOf_append (log log' : List (κ × String)) :
    keysOf (log ++ log') = keysOf log ++ keysOf log' := List.map_append

@[simp] theorem keysOf_singleton (e : κ × String) : keysOf [e] = [e.1] := rfl

variable [DecidableEq κ]

/-- The number of the first attempt to name a key. -/
def numberOf (log : List (κ × String)) (k : κ) : Int := (keysOf log).idxOf k + 1

/-- The name that a key was given last. -/
def nameOf (log : List (κ × String)) (k : κ) : String :=
  ((log.filter (·.1 = k)).getLast?.map (·.2)).getD ""

/-- The row of a key, made from its number, itself and its name. -/
def row (make : Int → κ → String → α) (log : List (κ × String)) (k : κ) : α :=
  make (numberOf log k) k (nameOf log k)

/-- The table of a log. -/
def table (make : Int → κ → String → α) (log : List (κ × String)) : List α :=
  (distinct (keysOf log)).map (row make log)

/-! ### Numbers and names -/

variable {log : List (κ × String)} {j k : κ} {name : String}

/-- Later attempts leave the number of a key as it is. -/
theorem numberOf_append_of_mem (hk : k ∈ keysOf log) (log' : List (κ × String)) :
    numberOf (log ++ log') k = numberOf log k := by
  rw [numberOf, keysOf_append, List.idxOf_append_of_mem hk, numberOf]

theorem numberOf_concat_of_notMem (hk : k ∉ keysOf log) :
    numberOf (log ++ [(k, name)]) k = log.length + 1 := by
  rw [numberOf, keysOf_append, List.idxOf_append_of_notMem hk, keysOf, List.length_map]
  simp

theorem numberOf_inj (hk : k ∈ keysOf log) : numberOf log k = numberOf log j ↔ k = j := by
  rw [numberOf, numberOf, ← List.idxOf_inj hk]
  omega

/-- A name that is given later counts, whatever was given before. -/
theorem nameOf_append (log log' : List (κ × String)) (k : κ) :
    nameOf (log ++ log') k = if k ∈ keysOf log' then nameOf log' k else nameOf log k := by
  unfold nameOf
  rw [List.filter_append]
  split_ifs with h
  · obtain ⟨e, he, rfl⟩ := List.mem_map.1 h
    have hne : log'.filter (·.1 = e.1) ≠ [] := List.ne_nil_of_mem (List.mem_filter.2 ⟨he, by simp⟩)
    rw [List.getLast?_append_of_ne_nil _ hne]
  · have hnil : log'.filter (·.1 = k) = [] := by
      refine List.filter_eq_nil_iff.2 fun e he hk => h ?_
      exact List.mem_map.2 ⟨e, he, of_decide_eq_true hk⟩
    rw [hnil, List.append_nil]

theorem nameOf_concat : nameOf (log ++ [(k, name)]) j = if k = j then name else nameOf log j := by
  rw [nameOf_append, keysOf_singleton]
  by_cases h : k = j
  · simp [nameOf, h]
  · simp [h, Ne.symm h]

/-! ### Rows -/

section Rows

variable {make : Int → κ → String → α}

theorem mem_table_iff {a : α} : a ∈ table make log ↔ ∃ k ∈ keysOf log, row make log k = a := by
  simp only [table, List.mem_map, mem_distinct]

theorem map_table {key : α → κ} (hkey : ∀ n k w, key (make n k w) = k) :
    (table make log).map key = distinct (keysOf log) := by
  rw [table, List.map_map]
  exact (List.map_congr_left fun k _ => hkey ..).trans (List.map_id _)

/-- An attempt to name a known key renames its row. -/
theorem table_concat_of_mem (hk : k ∈ keysOf log) {rename : α → α}
    (hr : ∀ n j w, rename (make n j w) = make n j (if k = j then name else w)) :
    (table make log).map rename = table make (log ++ [(k, name)]) := by
  rw [table, table, keysOf_append, keysOf_singleton, distinct_concat, if_pos hk, List.map_map]
  refine List.map_congr_left fun j hj => ?_
  rw [Function.comp_apply, row, row, hr, nameOf_concat,
    numberOf_append_of_mem (mem_distinct.1 hj)]

/-- An attempt to name a new key adds a row. -/
theorem table_concat_of_notMem (hk : k ∉ keysOf log) :
    table make (log ++ [(k, name)]) = table make log ++ [make (log.length + 1) k name] := by
  rw [table, table, keysOf_append, keysOf_singleton, distinct_concat, if_neg hk, List.map_append,
    List.map_singleton]
  congr 1
  · refine List.map_congr_left fun j hj => ?_
    have hj := mem_distinct.1 hj
    have hne : k ≠ j := fun h => hk (h ▸ hj)
    rw [row, row, nameOf_concat, if_neg hne, numberOf_append_of_mem hj]
  · rw [row, nameOf_concat, if_pos rfl, numberOf_concat_of_notMem hk]

/-- Attempts that are made once more change nothing. -/
theorem table_append_again (log log' : List (κ × String)) :
    table make (log ++ log' ++ log') = table make (log ++ log') := by
  have hkeys : distinct (keysOf (log ++ log' ++ log')) = distinct (keysOf (log ++ log')) := by
    rw [keysOf_append (log ++ log')]
    refine distinct_append_of_subset fun k hk => ?_
    rw [keysOf_append]
    exact List.mem_append_right _ hk
  rw [table, table, hkeys]
  refine List.map_congr_left fun k hk => ?_
  -- a key of the attempts that are repeated has its name from them both times
  have hname : nameOf (log ++ log' ++ log') k = nameOf (log ++ log') k := by
    rw [nameOf_append, nameOf_append]
    split_ifs <;> rfl
  rw [row, row, numberOf_append_of_mem (mem_distinct.1 hk), hname]

theorem find?_table {p : α → Bool} (hk : k ∈ keysOf log)
    (hp : ∀ n j w, p (make n j w) = true ↔ j = k) :
    (table make log).find? p = some (row make log k) :=
  find?_map_eq_some (mem_distinct.2 hk) fun _ _ => hp ..

theorem find?_table_eq_none {p : α → Bool} (hk : k ∉ keysOf log)
    (hp : ∀ n j w, p (make n j w) = true ↔ j = k) : (table make log).find? p = none := by
  rw [List.find?_eq_none]
  intro a ha
  obtain ⟨j, hj, rfl⟩ := mem_table_iff.1 ha
  exact fun h => hk ((hp ..).1 h ▸ hj)

end Rows

/-! ### Rows by number -/

section Numbers

variable {make : Int → κ → String → α} {id : α → Int}

theorem pairwise_numberOf (log : List (κ × String)) :
    (distinct (keysOf log)).Pairwise fun j k => numberOf log j < numberOf log k :=
  (pairwise_idxOf_distinct _).imp fun h => by
    unfold numberOf
    omega

/-- The rows of a table stand by ascending number. -/
theorem pairwise_table (hid : ∀ n k w, id (make n k w) = n) :
    (table make log).Pairwise fun a b => id a < id b :=
  List.pairwise_map.2 ((pairwise_numberOf log).imp fun h => by simpa only [row, hid] using h)

end Numbers

end GameFixes.Provider
