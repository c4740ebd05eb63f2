import GameFixes.Text.Blank
import GameFixes.Text.Find
import GameFixes.Text.Line
import Mathlib.Data.List.DropRight
import Mathlib.Data.List.Induction
import Mathlib.Data.List.Infix
import Mathlib.Data.List.TakeWhile

/-!
# Texts: occurrences, edges and lines

What the scanners of a text find, said without them:

* `isSome_after?_iff`, `occurs_iff`: a text starts with another one, or holds it somewhere;
* `splitFirst?_singleton_iff`: cutting a text at a character cuts it at the first one;
* `splitFirst?_append_cons`: a text is cut at a mark that cannot have begun before;
* `trim_append_of_blank`, `trim_append_blanks`, `trim_of_edges`, `trim_eq_nil_iff`,
  `trim_eq_self_iff`: what trimming removes and what it keeps;
* `exists_eq_append_trim`, `exists_trim_append`: a text is what trimming keeps between blanks;
* `lines_endLines`, `lines_joinLines`: lines written one after another are read back.
-/

namespace GameFixes.Text

/-! ### Occurrences -/

theorem isSome_after?_iff {p s : List Char} : (after? p s).isSome = true ↔ p <+: s := by
  rw [Option.isSome_iff_exists]
  constructor
  · rintro ⟨rest, h⟩
    exact ⟨rest, (after?_eq_some_iff.1 h).symm⟩
  · rintro ⟨rest, rfl⟩
    exact ⟨rest, after?_append p rest⟩

theorem after?_eq_none_iff {p s : List Char} : after? p s = none ↔ ¬ p <+: s := by
  rw [← isSome_after?_iff, Option.not_isSome_iff_eq_none]

/-- `occurs` finds a text wherever it stands. -/
theorem occurs_iff {p s : List Char} : occurs p s = true ↔ p <:+: s := by
  unfold occurs
  induction s with
  | nil => simp [splitFirst?, isSome_after?_iff]
  | cons c s ih =>
    rw [List.infix_cons_iff, splitFirst?]
    cases h : after? p (c :: s) with
    | some rest =>
      have hp : p <+: c :: s := isSome_after?_iff.1 (by rw [h]; rfl)
      simp [hp]
    | none =>
      have hp : ¬ p <+: c :: s := after?_eq_none_iff.1 h
      simp [hp, ih]

/-- A text is cut at a character where that character stands first. -/
theorem splitFirst?_singleton_iff {c : Char} {s a b : List Char} :
    splitFirst? [c] s = some (a, b) ↔ s = a ++ c :: b ∧ c ∉ a := by
  induction s generalizing a with
  | nil => simp [splitFirst?, after?]
  | cons d s ih =>
    by_cases h : c = d
    · subst h
      simp only [splitFirst?, after?, if_true, Option.some.injEq, Prod.mk.injEq]
      constructor
      · rintro ⟨rfl, rfl⟩
        simp
      · rintro ⟨hs, ha⟩
        cases a with
        | nil => simpa using hs
        | cons e a =>
          rw [List.cons_append, List.cons.injEq] at hs
          exact absurd (by simp [hs.1]) ha
    · simp only [splitFirst?, after?, if_neg h, Option.map_eq_some_iff, Prod.mk.injEq, Prod.exists]
      constructor
      · rintro ⟨a, b, hs, rfl, rfl⟩
        obtain ⟨rfl, ha⟩ := ih.1 hs
        simp [h, ha]
      · rintro ⟨hs, ha⟩
        cases a with
        | nil => exact absurd (List.cons.inj hs).1.symm h
        | cons e a =>
          obtain ⟨rfl, rfl⟩ := List.cons.inj hs
          exact ⟨a, b, ih.2 ⟨rfl, fun m => ha (List.mem_cons_of_mem _ m)⟩, rfl, rfl⟩

/-- A text is cut where a mark stands if the mark's first character is not found before. -/
theorem splitFirst?_append_cons {c : Char} {a : List Char} (hc : c ∉ a) (p b : List Char) :
    splitFirst? (c :: p) (a ++ (c :: p ++ b)) = some (a, b) := by
  induction a with
  | nil => rw [List.nil_append, List.cons_append, splitFirst?, ← List.cons_append, after?_append]
  | cons d a ih =>
    rw [List.mem_cons, not_or] at hc
    rw [List.cons_append, splitFirst?, after?, if_neg hc.1, ih hc.2, Option.map_some]

/-- A text without a character is a start of another one's part before that character. -/
theorem isPrefix_of_isPrefix_append_cons {p s t : List Char} {c : Char} (hc : c ∉ p)
    (h : p <+: s ++ c :: t) : p <+: s := by
  rcases List.prefix_or_prefix_of_prefix h (List.prefix_append s (c :: t)) with hp | ⟨u, rfl⟩
  · exact hp
  · rw [List.prefix_append_right_inj] at h
    cases u with
    | nil => simp
    | cons d u =>
      obtain ⟨rfl, -⟩ := List.cons_prefix_cons.1 h
      simp at hc

/-! ### Edges -/

theorem trimStart_append_of_blank {p : List Char} (h : ∀ c ∈ p, isBlank c = true)
    (s : List Char) : trimStart (p ++ s) = trimStart s := by
  induction p with
  | nil => rfl
  | cons c p ih =>
    rw [List.forall_mem_cons] at h
    rw [List.cons_append, trimStart_cons_of_blank h.1, ih h.2]

/-- Blanks in front of a text are trimmed away. -/
theorem trim_append_of_blank {p : List Char} (h : ∀ c ∈ p, isBlank c = true) (s : List Char) :
    trim (p ++ s) = trim s := by
  unfold trim
  rw [trimStart_append_of_blank h]

/-- A text whose first and last characters are no blanks is left as it is. -/
theorem trim_of_edges {c d : Char} {s t u : List Char} (hs : s = c :: t) (hu : s = u ++ [d])
    (hc : isBlank c = false) (hd : isBlank d = false) : trim s = s := by
  have hstart : trimStart s = s := by rw [hs, trimStart_cons_of_not_blank hc]
  have hend : trimEnd s = s := by rw [hu, trimEnd_concat_of_not_blank hd]
  rw [trim, hstart, hend]

theorem trimStart_eq_nil_iff {s : List Char} : trimStart s = [] ↔ ∀ c ∈ s, isBlank c = true := by
  unfold trimStart
  rw [List.dropWhile_eq_nil_iff]

/-- What is left of a text starts with a character that is no blank. -/
theorem isBlank_of_trimStart_eq_cons {s t : List Char} {c : Char} (h : trimStart s = c :: t) :
    isBlank c = false := by
  unfold trimStart at h
  have hc := List.head_dropWhile_not isBlank (l := s) (by rw [h]; exact List.cons_ne_nil c t)
  simpa only [h, List.head_cons] using hc

theorem trimEnd_eq_nil_iff {s : List Char} : trimEnd s = [] ↔ ∀ c ∈ s, isBlank c = true := by
  unfold trimEnd
  rw [List.reverse_eq_nil_iff, List.dropWhile_eq_nil_iff]
  simp

/-- Nothing is left of a text after trimming if it has blanks only. -/
theorem trim_eq_nil_iff {s : List Char} : trim s = [] ↔ ∀ c ∈ s, isBlank c = true := by
  rw [trim, trimEnd_eq_nil_iff]
  constructor
  · intro h
    rw [← trimStart_eq_nil_iff]
    by_contra hne
    -- the first character that is kept is no blank
    have hb := List.head_dropWhile_not isBlank hne
    have hm : isBlank ((trimStart s).head hne) = true := h _ (List.head_mem hne)
    exact Bool.false_ne_true (hb.symm.trans hm)
  · intro h c hc
    exact h c ((List.dropWhile_sublist isBlank).mem hc)

/-- A character that is no blank keeps what stands before it. -/
theorem trimEnd_append_cons {c : Char} (hc : isBlank c = false) (s t : List Char) :
    trimEnd (s ++ c :: t) = s ++ c :: trimEnd t := by
  unfold trimEnd
  rw [List.reverse_append, List.reverse_cons, List.append_assoc, List.dropWhile_append]
  cases h : t.reverse.dropWhile isBlank with
  | nil => simp [hc]
  | cons d u => simp

/-- Blanks after a text are trimmed away. -/
theorem trimEnd_append_of_blank {q : List Char} (h : ∀ c ∈ q, isBlank c = true) (s : List Char) :
    trimEnd (s ++ q) = trimEnd s := by
  have hq : ∀ c ∈ q.reverse, isBlank c = true := fun c hc => h c (List.mem_reverse.1 hc)
  show (trimStart (s ++ q).reverse).reverse = (trimStart s.reverse).reverse
  rw [List.reverse_append, trimStart_append_of_blank hq]

/-- What is trimmed away at the end of a text is blank. -/
theorem exists_eq_trimEnd_append (s : List Char) :
    ∃ q, s = trimEnd s ++ q ∧ ∀ c ∈ q, isBlank c = true := by
  refine ⟨(s.reverse.takeWhile isBlank).reverse, ?_, fun c hc => ?_⟩
  · rw [trimEnd, ← List.reverse_append, List.takeWhile_append_dropWhile, List.reverse_reverse]
  · exact List.mem_takeWhile_imp (List.mem_reverse.1 hc)

/-- A text of which something is left keeps what stands before it. -/
theorem trimEnd_append_of_ne_nil {t : List Char} (h : trimEnd t ≠ []) (s : List Char) :
    trimEnd (s ++ t) = s ++ trimEnd t := by
  unfold trimEnd at h ⊢
  rw [List.reverse_append, List.dropWhile_append, if_neg (by simpa using h),
    List.reverse_append, List.reverse_reverse]

theorem trimEnd_trimEnd (s : List Char) : trimEnd (trimEnd s) = trimEnd s := by
  obtain ⟨q, hs, hq⟩ := exists_eq_trimEnd_append s
  rw [← trimEnd_append_of_blank hq, ← hs]

/-- Blanks at the end of a text are trimmed away. -/
theorem trim_append_blanks {q : List Char} (h : ∀ c ∈ q, isBlank c = true) (s : List Char) :
    trim (s ++ q) = trim s := by
  unfold trim trimStart
  rw [List.dropWhile_append]
  split_ifs with hs
  · rw [List.isEmpty_iff.1 hs, List.dropWhile_eq_nil_iff.2 h]
  · exact trimEnd_append_of_blank h _

/-- Trimming the end first changes nothing about trimming. -/
theorem trim_trimEnd (s : List Char) : trim (trimEnd s) = trim s := by
  obtain ⟨q, hs, hq⟩ := exists_eq_trimEnd_append s
  conv_rhs => rw [hs, trim_append_blanks hq]

/-- Trimming twice changes nothing more. -/
theorem trim_trim (s : List Char) : trim (trim s) = trim s := by
  have hend : trim (trim s) = trim (trimStart s) := trim_trimEnd (trimStart s)
  have hstart : trimStart (trimStart s) = trimStart s := List.dropWhile_idempotent _ s
  rw [hend, trim, hstart, trim]

theorem trimStart_eq_self_iff {s : List Char} :
    trimStart s = s ↔ ∀ c ∈ s.head?, isBlank c = false := by
  cases s with
  | nil => simp
  | cons c s =>
    by_cases hc : isBlank c
    · have hne : trimStart (c :: s) ≠ c :: s := by
        intro h
        rw [isBlank_of_trimStart_eq_cons h] at hc
        cases hc
      simp [hne, hc]
    · rw [Bool.not_eq_true] at hc
      simp [trimStart_cons_of_not_blank hc, hc]

theorem trimEnd_eq_self_iff {s : List Char} :
    trimEnd s = s ↔ ∀ c ∈ s.getLast?, isBlank c = false := by
  have hreverse : trimEnd s = s ↔ trimStart s.reverse = s.reverse := by
    rw [← List.reverse_inj, trimEnd, List.reverse_reverse, trimStart]
  rw [hreverse, trimStart_eq_self_iff, List.head?_reverse]

/-- Trimming leaves those texts as they are that have no blank at either end. -/
theorem trim_eq_self_iff {s : List Char} : trim s = s ↔
    (∀ c ∈ s.head?, isBlank c = false) ∧ ∀ c ∈ s.getLast?, isBlank c = false := by
  rw [← trimStart_eq_self_iff, ← trimEnd_eq_self_iff]
  constructor
  · intro h
    -- no character is lost at the end, hence none at the start
    have hstart : trimStart s = s := by
      obtain ⟨q, hend, -⟩ := exists_eq_trimEnd_append (trimStart s)
      have hlength := congrArg List.length hend
      rw [← trim, h, List.length_append] at hlength
      exact (List.dropWhile_suffix isBlank).eq_of_length_le (by unfold trimStart at hlength; omega)
    refine ⟨hstart, ?_⟩
    rwa [trim, hstart] at h
  · rintro ⟨hstart, hend⟩
    rw [trim, hstart, hend]

/-- A text without the blanks at its end, if anything is left, ends with a character that is no
blank. -/
theorem exists_trimEnd_eq_concat {s : List Char} (h : trimEnd s ≠ []) :
    ∃ u c v, trimEnd s = u ++ [c] ∧ isBlank c = false ∧ s = u ++ c :: v := by
  induction s using List.reverseRecOn with
  | nil => exact absurd rfl h
  | append_singleton s c ih =>
    by_cases hc : isBlank c
    · rw [trimEnd_concat_of_blank hc] at h ⊢
      obtain ⟨u, d, v, hu, hd, rfl⟩ := ih h
      exact ⟨u, d, v ++ [c], hu, hd, by simp⟩
    · rw [Bool.not_eq_true] at hc
      exact ⟨s, c, [], trimEnd_concat_of_not_blank hc s, hc, rfl⟩

/-- What is left of a text after trimming is not touched by what is written after it. -/
theorem exists_trim_append {s : List Char} (h : trim s ≠ []) (t : List Char) :
    ∃ u, trim (s ++ t) = trim s ++ u := by
  have hstart : trimStart (s ++ t) = trimStart s ++ t := by
    have hne : trimStart s ≠ [] := fun hs => h (by rw [trim, hs, trimEnd_nil])
    unfold trimStart at hne ⊢
    rw [List.dropWhile_append, if_neg (by simpa using hne)]
  unfold trim at h ⊢
  obtain ⟨u, c, v, hu, hc, hs⟩ := exists_trimEnd_eq_concat h
  refine ⟨trimEnd (v ++ t), ?_⟩
  rw [hstart, hu, hs, List.append_assoc, List.cons_append, trimEnd_append_cons hc]
  simp

/-- What is trimmed away at the start of a text is blank. -/
theorem exists_eq_append_trimStart (s : List Char) :
    ∃ p, s = p ++ trimStart s ∧ ∀ c ∈ p, isBlank c = true :=
  ⟨_, List.takeWhile_append_dropWhile.symm, fun _ hc => List.mem_takeWhile_imp hc⟩

/-- The edges that trimming removes are blank. -/
theorem exists_eq_append_trim (s : List Char) :
    ∃ p q, s = p ++ trim s ++ q ∧ (∀ c ∈ p, isBlank c = true) ∧ ∀ c ∈ q, isBlank c = true := by
  obtain ⟨p, hstart, hp⟩ := exists_eq_append_trimStart s
  obtain ⟨q, hend, hq⟩ := exists_eq_trimEnd_append (trimStart s)
  exact ⟨p, q, hstart.trans (by rw [trim, List.append_assoc, ← hend]), hp, hq⟩

/-! ### Lines -/

/-- Lines written one after another, each ended by a line feed. -/
def endLines (ls : List (List Char)) : List Char := ls.flatMap (· ++ ['\n'])

/-- Lines written one after another with line feeds between them. -/
def joinLines (ls : List (List Char)) : List Char := ['\n'].intercalate ls

@[simp] theorem joinLines_nil : joinLines [] = [] := rfl

@[simp] theorem joinLines_singleton (l : List Char) : joinLines [l] = l := by simp [joinLines]

theorem joinLines_cons_cons (l l' : List Char) (ls : List (List Char)) :
    joinLines (l :: l' :: ls) = l ++ '\n' :: joinLines (l' :: ls) := by
  simp [joinLines, List.intercalate]

/-- A last line stands after a line feed, unless it is the only one. -/
theorem joinLines_concat {ls : List (List Char)} (h : ls ≠ []) (l : List Char) :
    joinLines (ls ++ [l]) = joinLines ls ++ '\n' :: l := by
  induction ls with
  | nil => exact absurd rfl h
  | cons l' ls ih =>
    cases ls with
    | nil => simp [joinLines_cons_cons]
    | cons l'' ls =>
      rw [List.cons_append, List.cons_append, joinLines_cons_cons, joinLines_cons_cons,
        ← List.cons_append, ih (by simp)]
      simp

/-- Ended lines in front of a text are its first lines. -/
theorem lines_endLines_append {ls : List (List Char)} (h : ∀ l ∈ ls, '\n' ∉ l) (s : List Char) :
    lines (endLines ls ++ s) = ls ++ lines s := by
  induction ls with
  | nil => rfl
  | cons l ls ih =>
    rw [List.forall_mem_cons] at h
    rw [endLines, List.flatMap_cons, List.append_assoc, List.append_assoc, List.singleton_append,
      lines_append_feed h.1, ← endLines, ih h.2, List.cons_append]

/-- Ended lines are read back. -/
theorem lines_endLines {ls : List (List Char)} (h : ∀ l ∈ ls, '\n' ∉ l) :
    lines (endLines ls) = ls := by
  rw [← List.append_nil (endLines ls), lines_endLines_append h, lines_nil, List.append_nil]

theorem lines_of_feed_not_mem {l : List Char} (hl : l ≠ []) (h : '\n' ∉ l) : lines l = [l] := by
  induction l with
  | nil => exact absurd rfl hl
  | cons c l ih =>
    rw [List.mem_cons, not_or] at h
    cases l with
    | nil => simp [lines, Ne.symm h.1]
    | cons d l => rw [lines, if_neg (Ne.symm h.1), ih (by simp) h.2]

/-- Joined lines are read back, as long as the last one is not empty. -/
theorem lines_joinLines {ls : List (List Char)} (h : ∀ l ∈ ls, '\n' ∉ l)
    (hlast : ls.getLast? ≠ some []) : lines (joinLines ls) = ls := by
  induction ls with
  | nil => rfl
  | cons l ls ih =>
    rw [List.forall_mem_cons] at h
    cases ls with
    | nil =>
      rw [joinLines_singleton]
      exact lines_of_feed_not_mem (by simpa using hlast) h.1
    | cons l' ls =>
      rw [joinLines_cons_cons, lines_append_feed h.1, ih h.2 (by simpa using hlast)]

end GameFixes.Text

namespace GameFixes

/-- Nothing is left of a string after trimming if it has blanks only. -/
theorem trimmed_eq_empty_iff {s : String} :
    trimmed s = "" ↔ ∀ c ∈ s.toList, Text.isBlank c = true := by
  rw [← Text.trim_eq_nil_iff, ← toList_trimmed, String.toList_eq_nil_iff]

/-- Trimming leaves those strings as they are that have no blank at either end. -/
theorem trimmed_eq_self_iff {s : String} : trimmed s = s ↔
    (∀ c ∈ s.toList.head?, Text.isBlank c = false) ∧
      ∀ c ∈ s.toList.getLast?, Text.isBlank c = false := by
  rw [← Text.trim_eq_self_iff, ← toList_trimmed, String.toList_inj]

@[simp] theorem trimmedEnd_trimmedEnd (s : String) : trimmedEnd (trimmedEnd s) = trimmedEnd s := by
  rw [trimmedEnd, toList_trimmedEnd, Text.trimEnd_trimEnd, ← trimmedEnd]

@[simp] theorem trimmed_trimmedEnd (s : String) : trimmed (trimmedEnd s) = trimmed s := by
  rw [trimmed, toList_trimmedEnd, Text.trim_trimEnd, ← trimmed]

@[simp] theorem trimmedEnd_trimmed (s : String) : trimmedEnd (trimmed s) = trimmed s := by
  rw [trimmedEnd, toList_trimmed, Text.trim, Text.trimEnd_trimEnd, ← Text.trim, ← trimmed]

end GameFixes
