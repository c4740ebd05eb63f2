import GameFixes.Proofs.Operation
import GameFixes.Proofs.Script.Marks
import GameFixes.Script.Source
import Mathlib.Data.List.FinRange

/-!
# One line of a script

What the reader of scripts makes of a line, given the quotation that is open before it, and how the
open quotation goes from line to line:

* `read?_eq_some_iff`: which call a line starts with;
* `readings_eq_map`: the reading of line `i` is that of the line after the first `i` lines;
* `mark_readLine`, `isDoc_readLine`: the mark and the kind of the quotation that a line leaves open;
* `operation?_readLine`, `readLine_eq_logic_iff`: when a line is an operation, and when it is logic;
* `isIdentifier_name_of_mem_operations`: what the names of a script's operations are.
-/

namespace GameFixes.Script

/-! ### Calls -/

/-- A line that calls a fix function. -/
def IsCall (l : List Char) : Prop :=
  ∃ c s, l = callStart ++ c :: s ∧ isIdentifierChar c = true

theorem isSome_read?_iff {l : List Char} : (Call.read? l).isSome = true ↔ IsCall l := by
  unfold Call.read? IsCall
  cases h : Text.after? callStart l with
  | none =>
    have hl : ¬ callStart <+: l := Text.after?_eq_none_iff.1 h
    simp only [Option.isSome_none, Bool.false_eq_true, false_iff]
    rintro ⟨c, s, rfl, -⟩
    exact hl (List.prefix_append _ _)
  | some s =>
    rw [Text.after?_eq_some_iff] at h
    subst h
    simp only [List.append_cancel_left_eq]
    cases s with
    | nil => simp
    | cons c s => by_cases hc : isIdentifierChar c <;> simp [hc]

instance (l : List Char) : Decidable (IsCall l) := decidable_of_iff _ isSome_read?_iff

/-- The operation that a call stands for. -/
def callOperation (l : List Char) (h : IsCall l) : Operation :=
  ((Call.read? l).get (isSome_read?_iff.2 h)).operation

theorem map_operation_read? {l : List Char} (h : IsCall l) :
    (Call.read? l).map Call.operation = some (callOperation l h) := by
  obtain ⟨call, hc⟩ := Option.isSome_iff_exists.1 (isSome_read?_iff.2 h)
  simp [callOperation, hc]

theorem read?_eq_none_iff {l : List Char} : Call.read? l = none ↔ ¬ IsCall l := by
  rw [← isSome_read?_iff, Option.not_isSome_iff_eq_none]

/-- A call is read as its name, up to where that ends, and what the text after it says. -/
theorem read?_append {name s : List Char} (hname : isIdentifier name = true)
    (hs : ∀ c t, s = c :: t → isIdentifierChar c = false) :
    Call.read? (callStart ++ (name ++ s)) = some ⟨name, argument? s⟩ := by
  have hne : name.isEmpty = false := by simpa using (isIdentifier_iff.1 hname).1
  have htake := takeWhile_isIdentifier_append hname hs
  have hdrop : (name ++ s).dropWhile isIdentifierChar = s := by
    have happend := List.takeWhile_append_dropWhile (p := isIdentifierChar) (l := name ++ s)
    rw [htake] at happend
    exact List.append_cancel_left happend
  rw [Call.read?, Text.after?_append]
  simp only [htake, hdrop, hne]
  rfl

/-- A call with an opening parenthesis has an argument, up to where that ends. -/
theorem read?_parenthesis {name blanks : List Char} (hname : isIdentifier name = true)
    (hblanks : ∀ c ∈ blanks, Text.isBlank c = true) (s : List Char) :
    Call.read? (callStart ++ (name ++ (blanks ++ '(' :: s))) =
      some ⟨name, some (Text.trim (upToClose 0 none s))⟩ := by
  have hnext : ∀ c t, blanks ++ '(' :: s = c :: t → isIdentifierChar c = false := by
    intro c t h
    cases blanks with
    | nil =>
      rw [← (List.cons.inj h).1]
      decide
    | cons b blanks =>
      rw [← (List.cons.inj h).1]
      exact isIdentifierChar_of_isBlank (hblanks b List.mem_cons_self)
  have harg : argument? (blanks ++ '(' :: s) = some (Text.trim (upToClose 0 none s)) := by
    rw [argument?, Text.trimStart_append_of_blank hblanks,
      Text.trimStart_cons_of_not_blank (by decide)]
    rfl
  rw [read?_append hname hnext, harg]

/-- A call is read if its name is an identifier that ends where it is said to end. -/
theorem read?_eq_some_iff {l : List Char} {c : Call} :
    Call.read? l = some c ↔ isIdentifier c.name = true ∧ ∃ s, l = callStart ++ (c.name ++ s) ∧
      (∀ x t, s = x :: t → isIdentifierChar x = false) ∧ argument? s = c.argument := by
  constructor
  · intro h
    obtain ⟨x, s, rfl, hx⟩ := isSome_read?_iff.1 (Option.isSome_of_eq_some h)
    have hname : isIdentifier ((x :: s).takeWhile isIdentifierChar) = true := by
      rw [isIdentifier, List.takeWhile_cons_of_pos hx]
      simp [hx, List.all_takeWhile]
    have hend : ∀ y t, (x :: s).dropWhile isIdentifierChar = y :: t →
        isIdentifierChar y = false := by
      intro y t hy
      have := List.head_dropWhile_not isIdentifierChar (l := x :: s) (by rw [hy]; simp)
      simpa [hy] using this
    have hread := read?_append hname hend
    rw [List.takeWhile_append_dropWhile, h] at hread
    obtain rfl := Option.some.inj hread
    exact ⟨hname, _, by rw [List.takeWhile_append_dropWhile], hend, rfl⟩
  · rintro ⟨hname, s, rfl, hend, harg⟩
    rw [read?_append hname hend, harg]

/-- A call starts neither with a comment sign nor with a mark. -/
theorem isIdle_of_isCall {l : List Char} (h : IsCall l) : isIdle l = false := by
  obtain ⟨c, s, rfl, -⟩ := h
  rfl

theorem startsWithMark_of_isCall {l : List Char} (h : IsCall l) : startsWithMark l = false := by
  obtain ⟨c, s, rfl, -⟩ := h
  rw [← Bool.not_eq_true, startsWithMark_iff]
  rintro ⟨m, hm⟩
  cases m with
  | double => exact absurd (List.cons_prefix_cons.1 hm).1 (by decide)
  | single => exact absurd (List.cons_prefix_cons.1 hm).1 (by decide)

/-- A line that starts with another sign after trimming is no head of the entry routine. -/
theorem isEntry_of_trim {l : List Char} (h : ∀ s, Text.trim l ≠ 'd' :: s) : isEntry l = false := by
  rw [← Bool.not_eq_true, isEntry, Text.isSome_after?_iff]
  rintro ⟨s, rfl⟩
  exact h _ (Text.trimEnd_append_cons (c := 'd') (by decide) [] ("ef main".toList ++ s))

/-- A line that is a call after trimming is no head of the entry routine. -/
theorem isEntry_of_isCall_trim {l : List Char} (h : IsCall (Text.trim l)) : isEntry l = false := by
  refine isEntry_of_trim fun s hs => ?_
  obtain ⟨c, t, ht, -⟩ := h
  rw [hs] at ht
  exact absurd (List.cons.inj ht).1 (by decide)

/-- A call outside quotations is its operation, whatever it leaves open. -/
theorem readLine_of_read? {l : List Char} {c : Call} (h : Call.read? l = some c) :
    readLine none l = (.operation c.operation, openedBy false l) := by
  have hl : IsCall l := isSome_read?_iff.1 (by rw [h]; rfl)
  rw [readLine, readPlain, if_neg (by simp [isIdle_of_isCall hl]),
    if_neg (by simp [startsWithMark_of_isCall hl]), h]

/-! ### The state of the reader -/

/-- The quotation open after some lines. -/
def stateAfter (q : Option Quotation) (ls : List (List Char)) : Option Quotation :=
  ls.foldl (fun q l => (readLine q l).2) q

@[simp] theorem stateAfter_nil (q : Option Quotation) : stateAfter q [] = q := rfl

theorem stateAfter_concat (q : Option Quotation) (ls : List (List Char)) (l : List Char) :
    stateAfter q (ls ++ [l]) = (readLine (stateAfter q ls) l).2 := by
  simp [stateAfter]

theorem readings_append (q : Option Quotation) (ls ls' : List (List Char)) :
    readings q (ls ++ ls') = readings q ls ++ readings (stateAfter q ls) ls' := by
  induction ls generalizing q with
  | nil => rfl
  | cons l ls ih => rw [List.cons_append, readings, readings, ih, List.cons_append]; rfl

theorem getElem_readings (q : Option Quotation) (ls : List (List Char)) (i : ℕ)
    (hi : i < (readings q ls).length) :
    (readings q ls)[i] =
      (readLine (stateAfter q (ls.take i)) (ls.get ⟨i, by simpa using hi⟩)).1 := by
  induction ls generalizing q i with
  | nil => simp [readings] at hi
  | cons l ls ih =>
    cases i with
    | zero => rfl
    | succ i => exact ih (readLine q l).2 i (by simpa [readings] using hi)

theorem readings_eq_map (ls : List (List Char)) :
    readings none ls =
      (List.finRange ls.length).map fun (i : Fin ls.length) =>
        (readLine (stateAfter none (ls.take i)) (ls.get i)).1 := by
  refine List.ext_getElem (by simp) fun i hi _ => ?_
  rw [getElem_readings, List.getElem_map, List.getElem_finRange]
  rfl

/-! ### One line -/

/-- The quotation that a line leaves open has the mark that the scanner finds, except that blank
lines and comments outside quotations are not looked at. -/
theorem mark_readLine (q : Option Quotation) (l : List Char) :
    (readLine q l).2.map Quotation.mark =
      if isIdle l = true ∧ q = none then none else openAfter (q.map Quotation.mark) l := by
  cases q with
  | none =>
    simp only [readLine, readPlain, Option.map_none, and_true]
    by_cases hi : isIdle l
    · rw [if_pos hi, if_pos hi, Option.map_none]
    · rw [if_neg hi, if_neg hi]
      have opened : ∀ b, (openedBy b l).map Quotation.mark = openAfter none l := fun b => by
        simp [openedBy, Function.comp_def]
      by_cases hm : startsWithMark l
      · rw [if_pos hm, opened]
      · rw [if_neg hm]
        cases Call.read? l with
        | none => exact opened false
        | some call => exact opened false
  | some q =>
    simp only [readLine, readQuoted, reduceCtorEq, and_false, if_false, Option.map_some]
    by_cases ho : Text.occurs q.mark.text l
    · simp [ho, Function.comp_def]
    · have hm : openAfter (some q.mark) l = some q.mark :=
        openAfter_some_of_no_mark fun h => ho (Text.occurs_iff.2 h)
      rw [if_neg ho, hm]
      by_cases hd : q.isDoc || isIdle l
      · rw [if_pos hd, Option.map_some]
      · rw [if_neg hd, Option.map_some]

/-- A quotation is documentation if its first line starts with a mark; the lines in it change
nothing about that. -/
theorem isDoc_readLine {q : Option Quotation} {l : List Char} {q' : Quotation}
    (h : (readLine q l).2 = some q') :
    q'.isDoc = (q.map Quotation.isDoc).getD (startsWithMark l) := by
  cases q with
  | none =>
    have opened : ∀ {b}, openedBy b l = some q' → q'.isDoc = b := fun h => by
      obtain ⟨m, -, rfl⟩ := Option.map_eq_some_iff.1 h
      rfl
    simp only [readLine, readPlain] at h
    by_cases hi : isIdle l
    · rw [if_pos hi] at h
      cases h
    · rw [if_neg hi] at h
      by_cases hm : startsWithMark l
      · rw [if_pos hm] at h
        simp [opened h, hm]
      · rw [if_neg hm] at h
        cases hc : Call.read? l with
        | none =>
          rw [hc] at h
          simp [opened h, hm]
        | some call =>
          rw [hc] at h
          simp [opened h, hm]
  | some q =>
    simp only [readLine, readQuoted] at h
    by_cases ho : Text.occurs q.mark.text l
    · rw [if_pos ho] at h
      obtain ⟨m, -, rfl⟩ := Option.map_eq_some_iff.1 h
      rfl
    · rw [if_neg ho] at h
      split at h
      · obtain rfl := Option.some.inj h
        rfl
      · obtain rfl := Option.some.inj h
        rfl

theorem operation?_readLine (q : Option Quotation) (l : List Char) :
    (readLine q l).1.operation? =
      if q = none ∧ isIdle l = false ∧ startsWithMark l = false then
        (Call.read? l).map Call.operation
      else none := by
  cases q with
  | none =>
    simp only [readLine, readPlain]
    by_cases hi : isIdle l
    · simp [hi, Reading.operation?]
    · by_cases hm : startsWithMark l
      · simp [hi, hm, Reading.operation?]
      · cases hc : Call.read? l <;> simp [hi, hm, Reading.operation?]
  | some q =>
    simp only [readLine, readQuoted]
    split_ifs <;> simp_all [Reading.operation?]

theorem readLine_eq_logic_iff {q : Option Quotation} {l : List Char} :
    (readLine q l).1 = .logic ↔
      (q = none ∧ isIdle l = false ∧ startsWithMark l = false ∧ Call.read? l = none) ∨
      ∃ q', q = some q' ∧ q'.isDoc = false ∧ isIdle l = false ∧
        Text.occurs q'.mark.text l = false := by
  cases q with
  | none =>
    simp only [readLine, readPlain]
    by_cases hi : isIdle l
    · simp [hi]
    · by_cases hm : startsWithMark l
      · simp [hi, hm]
      · cases hc : Call.read? l <;> simp [hi, hm]
  | some q =>
    simp only [readLine, readQuoted]
    by_cases ho : Text.occurs q.mark.text l
    · simp [ho]
    · cases hd : q.isDoc <;> cases hi : isIdle l <;> simp [ho, hd]

/-- Every operation of a script has an identifier as its name. -/
theorem isIdentifier_name_of_mem_operations {source : String} {o : Operation}
    (h : o ∈ operations source) : isIdentifier o.name.toList = true := by
  rw [operations, collect, List.mem_append, readings_eq_map, List.filterMap_map,
    List.mem_filterMap] at h
  rcases h with ⟨i, -, hi⟩ | h
  · rw [Function.comp_apply, operation?_readLine] at hi
    obtain ⟨-, hi⟩ := Option.ite_none_right_eq_some.1 hi
    obtain ⟨c, hc, rfl⟩ := Option.map_eq_some_iff.1 hi
    show isIdentifier (String.ofList c.name).toList = true
    rw [String.toList_ofList]
    exact (read?_eq_some_iff.1 hc).1
  · split_ifs at h
    · rw [List.mem_singleton.1 h]
      decide +kernel
    · cases h

end GameFixes.Script
