import GameFixes.Proofs.Script.Meaning

/-!
# Marks from line to line

The reader of scripts carries an open quotation from line to line, and each line goes on where the
last one stopped. The marks of all these lines together, read as one text, leave the same open:

* `openAfter_some_cases`: a text that begins inside a quotation is read from its end on, if it has
  one;
* `consumed`: the lines of which the reader looks at the marks;
* `mark_stateAfter_consumed`: the quotation that it carries is the one that they leave open;
* `openAfter_lines`: reading in parts and reading as a whole are the same.
-/

namespace GameFixes.Script

/-- A text that begins inside a quotation does not close it, or is read on after the first mark that
does. -/
theorem openAfter_some_cases (m : Mark) (s : List Char) :
    (¬ m.text <:+: s ∧ openAfter (some m) s = some m) ∨
      ∃ u v, s = u ++ m.text ++ v ∧ ¬ m.text <:+: u ++ m.text.dropLast ∧
        openAfter (some m) s = openAfter none v := by
  generalize ho : openAfter (some m) s = o
  cases leaves_iff.2 ho with
  | inside h => exact .inl ⟨h, rfl⟩
  | closes h rest => exact .inr ⟨_, _, rfl, h, (openAfter_of_leaves rest).symm⟩

/-- The lines of which the marks are looked at, from the quotation on that is open before them. All
are, but for the blank lines and comments that are met outside quotations. -/
def consumed (q : Option Quotation) : List (List Char) → List (List Char)
  | [] => []
  | l :: ls =>
    (if q = none ∧ isIdle l = true then [] else [l]) ++ consumed (readLine q l).2 ls

theorem consumed_concat (q : Option Quotation) (ls : List (List Char)) (l : List Char) :
    consumed q (ls ++ [l]) =
      consumed q ls ++ if stateAfter q ls = none ∧ isIdle l = true then [] else [l] := by
  induction ls generalizing q with
  | nil => exact List.append_nil _
  | cons l' ls ih =>
    rw [List.cons_append, consumed, consumed, ih, List.append_assoc]
    rfl

/-- Which lines are looked at can be told from the marks before them. -/
theorem consumed_eq_marking (ls : List (List Char)) : consumed none ls = marking ls := by
  induction ls using List.reverseRecOn with
  | nil => rfl
  | append_singleton ls l ih =>
    have houtside : Leaves none (Text.joinLines (marking ls)) none ↔ stateAfter none ls = none := by
      rw [leaves_iff, ← mark_stateAfter, Option.map_eq_none_iff]
    rw [consumed_concat, marking_concat, ih]
    by_cases h : isIdle l = true ∧ stateAfter none ls = none
    · rw [if_pos h.symm, if_pos (h.imp_right houtside.2), List.append_nil]
    · rw [if_neg fun h' => h h'.symm, if_neg fun h' => h (h'.imp_right houtside.1)]

theorem mark_stateAfter_consumed (ls : List (List Char)) :
    (stateAfter none ls).map Quotation.mark =
      openAfter none (Text.joinLines (consumed none ls)) := by
  rw [consumed_eq_marking, mark_stateAfter]

/-- **Marks are tracked line by line as in one text.** What a text with a line feed in it leaves
open is what its second part does, if the first part leaves nothing open; otherwise it is what that
leaves open, unless the second part closes it, and then what the rest of that leaves open. Hence the
reader of a script, at each line of its entry routine, carries the quotation that the lines
looked at before leave open as one text. -/
theorem openAfter_lines :
    (∀ s t, openAfter none s = none → openAfter none (s ++ '\n' :: t) = openAfter none t) ∧
    (∀ s t m, openAfter none s = some m →
      (¬ m.text <:+: t ∧ openAfter none (s ++ '\n' :: t) = some m) ∨
        ∃ u v, t = u ++ m.text ++ v ∧ ¬ m.text <:+: u ++ m.text.dropLast ∧
          openAfter none (s ++ '\n' :: t) = openAfter none v) ∧
    ∀ (source : String) (i : ℕ),
      let ls := body source.toList
      readings none ls =
        readings none (ls.take i) ++ readings (stateAfter none (ls.take i)) (ls.drop i) ∧
      (stateAfter none (ls.take i)).map Quotation.mark =
        openAfter none (Text.joinLines (consumed none (ls.take i))) := by
  refine ⟨fun s t h => ?_, fun s t m h => ?_, fun source i => ⟨?_, ?_⟩⟩
  · rw [openAfter_append_feed, h]
  · rw [openAfter_append_feed, h]
    exact openAfter_some_cases m t
  · rw [← readings_append, List.take_append_drop]
  · exact mark_stateAfter_consumed _

/-- Quote characters on two lines are no mark, and a line may close a quotation and open another
one. -/
theorem openAfter_lines_reopened :
    openAfter none "\"\"".toList = none ∧
      openAfter none "\"\"\n\"".toList = openAfter none "\"".toList ∧
      openAfter none "x = '''a".toList = some .single ∧
      ∃ u v, "b''' '''c".toList = u ++ Mark.single.text ++ v ∧
        ¬ Mark.single.text <:+: u ++ Mark.single.text.dropLast ∧
        openAfter none "x = '''a\nb''' '''c".toList = openAfter none v := by
  obtain ⟨hnone, hsome, -⟩ := openAfter_lines
  have hclosed : openAfter none "\"\"".toList = none := by decide
  have hopen : openAfter none "x = '''a".toList = some .single := by decide
  refine ⟨hclosed, hnone _ "\"".toList hclosed, hopen, ?_⟩
  exact (hsome _ "b''' '''c".toList .single hopen).resolve_left fun h => absurd h.1 (by decide)

end GameFixes.Script
