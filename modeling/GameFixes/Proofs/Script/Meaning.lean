import GameFixes.Proofs.Script.Reading
import Mathlib.Data.Fintype.Basic
import Mathlib.Data.List.Induction

/-!
# What a script means

The operations of a script, said from its lines alone and without a reader that goes through them:

* `Begins ls i o`: line `i` begins inside the quotation of a mark or in none, by the pairing of the
  marks in the lines before it (`marking`);
* `IsDoc ls i`: the quotation that is open there was opened by a line that starts with a mark;
* `IsCode ls i`, `IsStray ls i`: the line is code, or text of a quotation that is no documentation;
* `operations_eq_meaning`: a script's operations are the calls among its code lines, in their order,
  and the marker stands after them if and only if some code line is no call or some line is stray.
-/

namespace GameFixes.Script

/-! ### The lines of the entry routine -/

/-- The trimmed lines after the first head of the entry routine, without further heads. -/
def routine (source : List Char) : List (List Char) :=
  (((Text.lines source).dropWhile fun l => ¬ entryMark <+: l).tail.filter
    fun l => ¬ entryMark <+: l).map Text.trim

theorem isEntry_eq (l : List Char) : isEntry l = decide (entryMark <+: l) := by
  rw [Bool.eq_iff_iff, decide_eq_true_iff]
  exact Text.isSome_after?_iff

theorem body_eq_routine (source : List Char) : body source = routine source := by
  have he : (fun l : List Char => !isEntry l) = fun l => decide ¬ entryMark <+: l := by
    funext l
    simp [isEntry_eq]
  unfold body routine
  rw [he]
  congr 1
  cases h : (Text.lines source).dropWhile fun l => ¬ entryMark <+: l with
  | nil => rfl
  | cons l ls =>
    have hl := List.head_dropWhile_not (l := Text.lines source)
      (fun l : List Char => decide ¬ entryMark <+: l) (by rw [h]; simp)
    simp only [h, List.head_cons] at hl
    rw [List.filter_cons_of_neg (by simp [hl]), List.tail_cons]

/-! ### Where a line begins -/

/-- The lines whose marks count: all but the blank lines and comments outside quotations. -/
def marking (before : List (List Char)) : List (List Char) :=
  before.foldl (fun seen l =>
    if isIdle l ∧ Leaves none (Text.joinLines seen) none then seen else seen ++ [l]) []

/-- Line `i` begins inside the quotation of a mark, or outside any quotation. -/
def Begins (ls : List (List Char)) (i : ℕ) (o : Option Mark) : Prop :=
  Leaves none (Text.joinLines (marking (ls.take i))) o

instance (ls : List (List Char)) (i : ℕ) (o : Option Mark) : Decidable (Begins ls i o) :=
  inferInstanceAs (Decidable (Leaves _ _ _))

/-- The quotation that is open before line `i` is documentation: the line that opened it, the last
one before `i` that begins outside quotations, starts with a mark. -/
def IsDoc (ls : List (List Char)) (i : ℕ) : Prop :=
  ∃ j : Fin ls.length, j < i ∧ Begins ls j none ∧ (∀ k < i, j ≤ k → ¬ Begins ls (k + 1) none) ∧
    ∃ m : Mark, m.text <+: ls.get j

/-- Line `i` begins outside quotations, is neither blank nor a comment, and does not start with a
mark. -/
def IsCode (ls : List (List Char)) (i : Fin ls.length) : Prop :=
  Begins ls i none ∧ isIdle (ls.get i) = false ∧ ∀ m : Mark, ¬ m.text <+: ls.get i

/-- Line `i` is text of a quotation that is no documentation, and does not close it. -/
def IsStray (ls : List (List Char)) (i : Fin ls.length) : Prop :=
  ∃ m : Mark, Begins ls i (some m) ∧ ¬ IsDoc ls i ∧ isIdle (ls.get i) = false ∧
    ¬ m.text <:+: ls.get i

/-- Some line is code that calls no fix function, or stray text. -/
def HasLogic (ls : List (List Char)) : Prop :=
  ∃ i : Fin ls.length, (IsCode ls i ∧ ¬ IsCall (ls.get i)) ∨ IsStray ls i

instance (ls : List (List Char)) (i : ℕ) : Decidable (IsDoc ls i) :=
  inferInstanceAs (Decidable (∃ _, _))

instance (ls : List (List Char)) (i : Fin ls.length) : Decidable (IsCode ls i) :=
  inferInstanceAs (Decidable (_ ∧ _))

instance (ls : List (List Char)) (i : Fin ls.length) : Decidable (IsStray ls i) :=
  inferInstanceAs (Decidable (∃ _, _))

instance (ls : List (List Char)) : Decidable (HasLogic ls) :=
  inferInstanceAs (Decidable (∃ _, _))

/-- The operation of line `i`, if it is code that calls a fix function. -/
def operationAt (ls : List (List Char)) (i : Fin ls.length) : Option Operation :=
  if h : IsCode ls i ∧ IsCall (ls.get i) then some (callOperation (ls.get i) h.2) else none

/-- What the lines of an entry routine mean. -/
def meaning (ls : List (List Char)) : List Operation :=
  (List.finRange ls.length).filterMap (operationAt ls) ++
    if HasLogic ls then [Operation.additionalFixes] else []

theorem operationAt_eq_some_iff {ls : List (List Char)} {i : Fin ls.length} {o : Operation} :
    operationAt ls i = some o ↔
      IsCode ls i ∧ ∃ c, Call.read? (ls.get i) = some c ∧ c.operation = o := by
  unfold operationAt
  constructor
  · intro h
    split_ifs at h with hi
    obtain ⟨c, hc⟩ := Option.isSome_iff_exists.1 (isSome_read?_iff.2 hi.2)
    refine ⟨hi.1, c, hc, ?_⟩
    rw [← Option.some.inj h, callOperation]
    simp only [hc, Option.get_some]
  · rintro ⟨hi, c, hc, rfl⟩
    have hl : IsCall (ls.get i) := isSome_read?_iff.1 (Option.isSome_of_eq_some hc)
    rw [dif_pos ⟨hi, hl⟩, ← map_operation_read? hl, hc, Option.map_some]

theorem operationAt_eq_none_iff {ls : List (List Char)} {i : Fin ls.length} :
    operationAt ls i = none ↔ ¬ (IsCode ls i ∧ IsCall (ls.get i)) := by
  unfold operationAt
  split_ifs with h
  · exact iff_of_false (by simp) (not_not_intro h)
  · exact iff_of_true rfl h

/-! ### The state of the reader -/

/-- One more line before: it counts unless it is blank or a comment outside quotations. -/
theorem marking_concat (before : List (List Char)) (l : List Char) :
    marking (before ++ [l]) =
      if isIdle l ∧ Leaves none (Text.joinLines (marking before)) none then marking before
      else marking before ++ [l] := by
  unfold marking
  rw [List.foldl_append]
  rfl

/-- The mark of the open quotation is the one that the lines before leave open. -/
theorem mark_stateAfter (before : List (List Char)) :
    (stateAfter none before).map Quotation.mark =
      openAfter none (Text.joinLines (marking before)) := by
  induction before using List.reverseRecOn with
  | nil => rfl
  | append_singleton before l ih =>
    have hnone : Leaves none (Text.joinLines (marking before)) none ↔
        stateAfter none before = none := by
      rw [leaves_iff, ← ih, Option.map_eq_none_iff]
    rw [stateAfter_concat, mark_readLine, marking_concat]
    by_cases h : isIdle l = true ∧ stateAfter none before = none
    · rw [if_pos h, if_pos ⟨h.1, hnone.2 h.2⟩, ← ih, h.2, Option.map_none]
    · rw [if_neg h, if_neg fun h' => h ⟨h'.1, hnone.1 h'.2⟩, openAfter_joinLines_concat, ih]

theorem begins_iff {ls : List (List Char)} {i : ℕ} {o : Option Mark} :
    Begins ls i o ↔ (stateAfter none (ls.take i)).map Quotation.mark = o := by
  rw [Begins, leaves_iff, mark_stateAfter]

theorem begins_none_iff {ls : List (List Char)} {i : ℕ} :
    Begins ls i none ↔ stateAfter none (ls.take i) = none := by
  rw [begins_iff, Option.map_eq_none_iff]

theorem stateAfter_take_succ {ls : List (List Char)} {i : ℕ} (hi : i < ls.length) :
    stateAfter none (ls.take (i + 1)) = (readLine (stateAfter none (ls.take i)) ls[i]).2 := by
  rw [List.take_succ_eq_append_getElem hi, stateAfter_concat]

/-- A quotation that is opened by line `i` is documentation if that line starts with a mark. -/
theorem isDoc_succ_of_begins {ls : List (List Char)} {i : ℕ} (hi : i < ls.length)
    (h : Begins ls i none) (h' : ¬ Begins ls (i + 1) none) :
    IsDoc ls (i + 1) ↔ ∃ m : Mark, m.text <+: ls[i] := by
  constructor
  · rintro ⟨j, hj, -, hk, hm⟩
    have hij : (j : ℕ) = i := by
      by_contra hne
      have hji : (j : ℕ) ≤ i - 1 := by omega
      refine hk (i - 1) (by omega) hji ?_
      rwa [show i - 1 + 1 = i by omega]
    obtain rfl : j = ⟨i, hi⟩ := Fin.ext hij
    exact hm
  · intro hm
    refine ⟨⟨i, hi⟩, Nat.lt_succ_self i, h, fun k hk hik => ?_, hm⟩
    obtain rfl : k = i := Nat.le_antisymm (Nat.lt_succ_iff.1 hk) hik
    exact h'

/-- A quotation that stays open is documentation as before. -/
theorem isDoc_succ_of_not_begins {ls : List (List Char)} {i : ℕ}
    (h : ¬ Begins ls i none) (h' : ¬ Begins ls (i + 1) none) : IsDoc ls (i + 1) ↔ IsDoc ls i := by
  constructor
  · rintro ⟨j, hj, hb, hk, hm⟩
    have hij : (j : ℕ) ≠ i := fun e => h (e ▸ hb)
    exact ⟨j, by omega, hb, fun k hki => hk k (by omega), hm⟩
  · rintro ⟨j, hj, hb, hk, hm⟩
    refine ⟨j, by omega, hb, fun k hki hjk => ?_, hm⟩
    rcases Nat.lt_succ_iff_lt_or_eq.1 hki with hki | rfl
    · exact hk k hki hjk
    · exact h'

/-- The reader knows which quotations are documentation. -/
theorem isDoc_iff {ls : List (List Char)} {i : ℕ} (hi : i ≤ ls.length) {q : Quotation}
    (hq : stateAfter none (ls.take i) = some q) : IsDoc ls i ↔ q.isDoc = true := by
  induction i generalizing q with
  | zero => simp at hq
  | succ i ih =>
    have hi' : i < ls.length := by omega
    have h' : ¬ Begins ls (i + 1) none := by
      rw [begins_none_iff, hq]
      simp
    rw [stateAfter_take_succ hi'] at hq
    rw [isDoc_readLine hq]
    cases hs : stateAfter none (ls.take i) with
    | none =>
      rw [isDoc_succ_of_begins hi' (begins_none_iff.2 hs) h', Option.map_none, Option.getD_none,
        startsWithMark_iff]
    | some q' =>
      have h : ¬ Begins ls i none := by
        rw [begins_none_iff, hs]
        simp
      rw [isDoc_succ_of_not_begins h h', ih (by omega) hs, Option.map_some, Option.getD_some]

/-! ### The meaning of a script -/

theorem isCode_iff {ls : List (List Char)} {i : Fin ls.length} :
    IsCode ls i ↔ stateAfter none (ls.take i) = none ∧ isIdle (ls.get i) = false ∧
      startsWithMark (ls.get i) = false := by
  rw [IsCode, begins_none_iff, ← Bool.not_eq_true (startsWithMark _), startsWithMark_iff,
    not_exists]

theorem isStray_iff {ls : List (List Char)} {i : Fin ls.length} :
    IsStray ls i ↔ ∃ q, stateAfter none (ls.take i) = some q ∧ q.isDoc = false ∧
      isIdle (ls.get i) = false ∧ Text.occurs q.mark.text (ls.get i) = false := by
  unfold IsStray
  constructor
  · rintro ⟨m, hb, hd, hi, ho⟩
    obtain ⟨q, hq, rfl⟩ := Option.map_eq_some_iff.1 (begins_iff.1 hb)
    rw [isDoc_iff (by omega) hq, Bool.not_eq_true] at hd
    rw [← Text.occurs_iff, Bool.not_eq_true] at ho
    exact ⟨q, hq, hd, hi, ho⟩
  · rintro ⟨q, hq, hd, hi, ho⟩
    refine ⟨q.mark, begins_iff.2 (by rw [hq, Option.map_some]), ?_, hi, ?_⟩
    · rw [isDoc_iff (by omega) hq, hd]
      exact Bool.false_ne_true
    · rw [← Text.occurs_iff, ho]
      exact Bool.false_ne_true

/-- Each line's reading holds the operation that the line means. -/
theorem operation?_reading (ls : List (List Char)) (i : Fin ls.length) :
    (readLine (stateAfter none (ls.take i)) (ls.get i)).1.operation? = operationAt ls i := by
  rw [operation?_readLine]
  unfold operationAt
  by_cases hc : IsCode ls i
  · rw [if_pos (isCode_iff.1 hc)]
    by_cases hl : IsCall (ls.get i)
    · rw [dif_pos ⟨hc, hl⟩, map_operation_read? hl]
    · rw [dif_neg fun h => hl h.2, read?_eq_none_iff.2 hl, Option.map_none]
  · rw [if_neg (isCode_iff.not.1 hc), dif_neg fun h => hc h.1]

theorem reading_eq_logic_iff (ls : List (List Char)) (i : Fin ls.length) :
    (readLine (stateAfter none (ls.take i)) (ls.get i)).1 = .logic ↔
      (IsCode ls i ∧ ¬ IsCall (ls.get i)) ∨ IsStray ls i := by
  rw [readLine_eq_logic_iff, isCode_iff, isStray_iff, read?_eq_none_iff]
  simp only [and_assoc]

/-- The readings of an entry routine amount to its meaning. -/
theorem collect_readings (ls : List (List Char)) : collect (readings none ls) = meaning ls := by
  have hlogic : Reading.logic ∈ readings none ls ↔ HasLogic ls := by
    rw [readings_eq_map, List.mem_map]
    constructor
    · rintro ⟨i, -, hi⟩
      exact ⟨i, (reading_eq_logic_iff ls i).1 hi⟩
    · rintro ⟨i, hi⟩
      exact ⟨i, List.mem_finRange i, (reading_eq_logic_iff ls i).2 hi⟩
  unfold collect meaning
  congr 1
  · rw [readings_eq_map, List.filterMap_map]
    exact List.filterMap_congr fun i _ => operation?_reading ls i
  · simp only [hlogic]

/-- **A script means its calls in the order of its lines, and one marker for all other logic.** -/
theorem operations_eq_meaning (source : String) :
    operations source = meaning (routine source.toList) := by
  rw [operations, body_eq_routine, collect_readings]

/-- Text that is assigned is stray, and documentation is not. -/
example : meaning (routine ("def main():\n    '''doc\n    doc\n    '''\n".toList ++
      "    util.disable_esync()\n    x = '''\n    text\n    '''\n".toList)) =
    [.bare "disable_esync", .additionalFixes] := by decide +kernel

end GameFixes.Script
