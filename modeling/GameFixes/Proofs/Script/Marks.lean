import GameFixes.Proofs.Text
import GameFixes.Script.Source
import Mathlib.Data.Fintype.Basic

/-!
# The pairing of triple quotes

`Leaves m s o` says, without a scanner, what the marks of a text do: read from left to right, a mark
outside a quotation opens one, the next mark of the same kind closes it, and `o` is what stays open
when the text began inside `m`.

* `leaves_iff`: `openAfter` computes this pairing, so it is a function of the text and decidable;
* `openAfter_append_feed`: a mark never runs over the end of a line, so lines can be read one by one.
-/

namespace GameFixes.Script

/-- What the marks of a text leave open, if it begins inside the quotation of a mark or in none. -/
inductive Leaves : Option Mark → List Char → Option Mark → Prop
  /-- Nothing is opened. -/
  | outside {s : List Char} (h : ∀ m : Mark, ¬ m.text <:+: s) : Leaves none s none
  /-- The first mark opens a quotation. -/
  | opens {m : Mark} {u s : List Char} {o : Option Mark}
      (h : ∀ m' : Mark, ¬ m'.text <:+: u ++ m.text.dropLast) (rest : Leaves (some m) s o) :
      Leaves none (u ++ m.text ++ s) o
  /-- The quotation is not closed. -/
  | inside {m : Mark} {s : List Char} (h : ¬ m.text <:+: s) : Leaves (some m) s (some m)
  /-- The first mark of its kind closes the quotation. -/
  | closes {m : Mark} {u s : List Char} {o : Option Mark}
      (h : ¬ m.text <:+: u ++ m.text.dropLast) (rest : Leaves none s o) :
      Leaves (some m) (u ++ m.text ++ s) o

instance : Fintype Mark := ⟨{.double, .single}, fun m => by cases m <;> decide⟩

theorem Mark.text_ne_nil (m : Mark) : m.text ≠ [] := by cases m <;> simp [Mark.text]

theorem Mark.length_text (m : Mark) : m.text.length = 3 := by cases m <;> rfl

theorem Mark.feed_not_mem_text (m : Mark) : '\n' ∉ m.text := by cases m <;> decide

theorem startsWithMark_iff {s : List Char} :
    startsWithMark s = true ↔ ∃ m : Mark, m.text <+: s := by
  unfold startsWithMark
  rw [Bool.or_eq_true, Text.isSome_after?_iff, Text.isSome_after?_iff]
  constructor
  · rintro (h | h)
    · exact ⟨.double, h⟩
    · exact ⟨.single, h⟩
  · rintro ⟨m, h⟩
    cases m with
    | double => exact Or.inl h
    | single => exact Or.inr h

/-! ### The scanner, one step at a time -/

theorem openAfter_mark (m : Mark) (s : List Char) :
    openAfter none (m.text ++ s) = openAfter (some m) s := by
  cases m <;> simp [Mark.text, openAfter]

theorem openAfter_some_mark (m : Mark) (s : List Char) :
    openAfter (some m) (m.text ++ s) = openAfter none s := by
  cases m <;> simp [Mark.text, openAfter]

/-- A character at which no mark starts is passed over. -/
theorem openAfter_cons {c : Char} {s : List Char} (h : ∀ m : Mark, ¬ m.text <+: c :: s) :
    openAfter none (c :: s) = openAfter none s := by
  rw [openAfter]
  · rintro t - rfl rfl
    exact h .double ⟨t, rfl⟩
  · rintro t - rfl rfl
    exact h .single ⟨t, rfl⟩
  all_goals simp

/-- Inside a quotation only its own mark counts. -/
theorem openAfter_some_cons {m : Mark} {c : Char} {s : List Char} (h : ¬ m.text <+: c :: s) :
    openAfter (some m) (c :: s) = openAfter (some m) s := by
  rw [openAfter]
  · simp
  · simp
  · rintro t hm rfl rfl
    cases hm
    exact h ⟨t, rfl⟩
  · rintro t hm rfl rfl
    cases hm
    exact h ⟨t, rfl⟩

/-- What is shown of a text's end, of a mark and of a character at which no mark that counts starts
holds of every text, inside and outside a quotation. -/
theorem scan_induction {motive : Option Mark → List Char → Prop}
    (nil : ∀ o, motive o [])
    (mark : ∀ m s, motive (some m) s → motive none (m.text ++ s))
    (someMark : ∀ m s, motive none s → motive (some m) (m.text ++ s))
    (cons : ∀ c s, (∀ m : Mark, ¬ m.text <+: c :: s) → motive none s → motive none (c :: s))
    (someCons : ∀ m c s, ¬ m.text <+: c :: s → motive (some m) s → motive (some m) (c :: s))
    (o : Option Mark) (s : List Char) : motive o s := by
  induction hn : s.length using Nat.strong_induction_on generalizing o s with
  | _ n ih =>
    subst hn
    have shorter : ∀ (m : Mark) (t : List Char), t.length < (m.text ++ t).length := by
      intro m t
      rw [List.length_append, m.length_text]
      omega
    cases s with
    | nil => exact nil o
    | cons c s =>
      cases o with
      | none =>
        by_cases h : ∃ m : Mark, m.text <+: c :: s
        · obtain ⟨m, t, ht⟩ := h
          rw [← ht] at ih ⊢
          exact mark m t (ih _ (shorter m t) (some m) t rfl)
        · exact cons c s (not_exists.1 h) (ih _ (by simp) none s rfl)
      | some m =>
        by_cases h : m.text <+: c :: s
        · obtain ⟨t, ht⟩ := h
          rw [← ht] at ih ⊢
          exact someMark m t (ih _ (shorter m t) none t rfl)
        · exact someCons m c s h (ih _ (by simp) (some m) s rfl)

/-! ### The scanner computes the pairing -/

/-- No mark is shorter than another one. -/
theorem not_text_isInfix_dropLast (m m' : Mark) : ¬ m'.text <:+: [] ++ m.text.dropLast := by
  intro h
  have hl := h.length_le
  rw [List.nil_append, List.length_dropLast, m.length_text, m'.length_text] at hl
  omega

theorem append_dropLast_isPrefix (u : List Char) (m : Mark) (s : List Char) :
    u ++ m.text.dropLast <+: u ++ m.text ++ s := by
  rw [List.append_assoc, List.prefix_append_right_inj]
  exact (List.dropLast_prefix _).trans (List.prefix_append _ _)

/-- A mark that starts a text with another mark in it starts what comes before that mark ends. -/
theorem isPrefix_of_isPrefix_mark {m m' : Mark} {c : Char} {u s : List Char}
    (h : m'.text <+: c :: u ++ m.text ++ s) : m'.text <+: c :: u ++ m.text.dropLast := by
  refine List.prefix_of_prefix_length_le h (append_dropLast_isPrefix (c :: u) m s) ?_
  simp only [List.length_append, List.length_cons, List.length_dropLast, Mark.length_text]
  omega

theorem openAfter_append_mark {m : Mark} {u : List Char}
    (h : ∀ m' : Mark, ¬ m'.text <:+: u ++ m.text.dropLast) (s : List Char) :
    openAfter none (u ++ m.text ++ s) = openAfter (some m) s := by
  induction u with
  | nil => exact openAfter_mark m s
  | cons c u ih =>
    have hc : ∀ m' : Mark, ¬ m'.text <+: c :: (u ++ m.text ++ s) := fun m' hm =>
      h m' (isPrefix_of_isPrefix_mark hm).isInfix
    rw [List.cons_append, List.cons_append, openAfter_cons hc]
    exact ih fun m' hm => h m' (hm.trans (List.suffix_cons c _).isInfix)

theorem openAfter_some_append_mark {m : Mark} {u : List Char}
    (h : ¬ m.text <:+: u ++ m.text.dropLast) (s : List Char) :
    openAfter (some m) (u ++ m.text ++ s) = openAfter none s := by
  induction u with
  | nil => exact openAfter_some_mark m s
  | cons c u ih =>
    have hc : ¬ m.text <+: c :: (u ++ m.text ++ s) := fun hm =>
      h (isPrefix_of_isPrefix_mark hm).isInfix
    rw [List.cons_append, List.cons_append, openAfter_some_cons hc]
    exact ih fun hm => h (hm.trans (List.suffix_cons c _).isInfix)

theorem openAfter_of_no_mark {s : List Char} (h : ∀ m : Mark, ¬ m.text <:+: s) :
    openAfter none s = none := by
  induction s with
  | nil => rfl
  | cons c s ih =>
    rw [openAfter_cons fun m hm => h m hm.isInfix]
    exact ih fun m hm => h m (hm.trans (List.suffix_cons c s).isInfix)

theorem openAfter_some_of_no_mark {m : Mark} {s : List Char} (h : ¬ m.text <:+: s) :
    openAfter (some m) s = some m := by
  induction s with
  | nil => rfl
  | cons c s ih =>
    rw [openAfter_some_cons fun hm => h hm.isInfix]
    exact ih fun hm => h (hm.trans (List.suffix_cons c s).isInfix)

theorem openAfter_of_leaves {m o : Option Mark} {s : List Char} (h : Leaves m s o) :
    openAfter m s = o := by
  induction h with
  | outside h => exact openAfter_of_no_mark h
  | opens h _ ih => rw [openAfter_append_mark h, ih]
  | inside h => exact openAfter_some_of_no_mark h
  | closes h _ ih => rw [openAfter_some_append_mark h, ih]

/-- A character at which no mark starts can be put in front. -/
theorem Leaves.cons {c : Char} {s : List Char} {o : Option Mark} (h : Leaves none s o)
    (hc : ∀ m : Mark, ¬ m.text <+: c :: s) : Leaves none (c :: s) o := by
  cases h with
  | outside h =>
    refine .outside fun m hm => ?_
    rcases List.infix_cons_iff.1 hm with hm | hm
    · exact hc m hm
    · exact h m hm
  | @opens m u s o h rest =>
    rw [← List.cons_append, ← List.cons_append]
    refine .opens (fun m' hm => ?_) rest
    rw [List.cons_append, List.infix_cons_iff] at hm
    rcases hm with hm | hm
    · exact hc m' (hm.trans (append_dropLast_isPrefix (c :: u) m s))
    · exact h m' hm

/-- A character at which the open quotation's mark does not start can be put in front. -/
theorem Leaves.cons_inside {m : Mark} {c : Char} {s : List Char} {o : Option Mark}
    (h : Leaves (some m) s o) (hc : ¬ m.text <+: c :: s) : Leaves (some m) (c :: s) o := by
  cases h with
  | inside h =>
    refine .inside fun hm => ?_
    rcases List.infix_cons_iff.1 hm with hm | hm
    · exact hc hm
    · exact h hm
  | @closes _ u s o h rest =>
    rw [← List.cons_append, ← List.cons_append]
    refine .closes (fun hm => ?_) rest
    rw [List.cons_append, List.infix_cons_iff] at hm
    rcases hm with hm | hm
    · exact hc (hm.trans (append_dropLast_isPrefix (c :: u) m s))
    · exact h hm

theorem leaves_openAfter (m : Option Mark) (s : List Char) : Leaves m s (openAfter m s) := by
  induction m, s using scan_induction with
  | nil o =>
    cases o with
    | none => exact .outside fun m hm => m.text_ne_nil (List.infix_nil.1 hm)
    | some m => exact .inside fun hm => m.text_ne_nil (List.infix_nil.1 hm)
  | mark m s ih =>
    rw [openAfter_mark]
    exact Leaves.opens (u := []) (not_text_isInfix_dropLast m) ih
  | someMark m s ih =>
    rw [openAfter_some_mark]
    exact Leaves.closes (u := []) (not_text_isInfix_dropLast m m) ih
  | cons c s h ih =>
    rw [openAfter_cons h]
    exact ih.cons h
  | someCons m c s h ih =>
    rw [openAfter_some_cons h]
    exact ih.cons_inside h

/-- The scanner computes what the pairing of the marks leaves open. -/
theorem leaves_iff {m o : Option Mark} {s : List Char} : Leaves m s o ↔ openAfter m s = o :=
  ⟨openAfter_of_leaves, fun h => h ▸ leaves_openAfter m s⟩

instance (m : Option Mark) (s : List Char) (o : Option Mark) : Decidable (Leaves m s o) :=
  decidable_of_iff _ leaves_iff.symm

/-- Double quotes inside single ones do not count, and the second pair of single ones is open. -/
example : Leaves none "x = '''a \"\"\" b''' + '''c".toList (some .single) := by decide

/-! ### Lines -/

/-- No mark runs over a character that is in none, so the text after it is read on its own. -/
theorem openAfter_append_cons {x : Char} (hx : ∀ m : Mark, x ∉ m.text) (m : Option Mark)
    (s t : List Char) : openAfter m (s ++ x :: t) = openAfter (openAfter m s) t := by
  have start : ∀ (m : Mark) (t : List Char), ¬ m.text <+: x :: t := by
    intro m t h
    have := Text.isPrefix_of_isPrefix_append_cons (hx m) (s := []) h
    exact m.text_ne_nil (List.prefix_nil.1 this)
  induction m, s using scan_induction with
  | nil o =>
    cases o with
    | none => exact openAfter_cons fun m => start m t
    | some m => exact openAfter_some_cons (start m t)
  | mark m s ih => rw [List.append_assoc, openAfter_mark, openAfter_mark, ih]
  | someMark m s ih => rw [List.append_assoc, openAfter_some_mark, openAfter_some_mark, ih]
  | cons c s h ih =>
    have hc : ∀ m : Mark, ¬ m.text <+: c :: (s ++ x :: t) := fun m hm =>
      h m (Text.isPrefix_of_isPrefix_append_cons (hx m) hm)
    rw [List.cons_append, openAfter_cons hc, openAfter_cons h, ih]
  | someCons m c s h ih =>
    have hc : ¬ m.text <+: c :: (s ++ x :: t) := fun hm =>
      h (Text.isPrefix_of_isPrefix_append_cons (hx m) hm)
    rw [List.cons_append, openAfter_some_cons hc, openAfter_some_cons h, ih]

/-- A text is read line by line: what a line leaves open is open before the next one. -/
theorem openAfter_append_feed (m : Option Mark) (s t : List Char) :
    openAfter m (s ++ '\n' :: t) = openAfter (openAfter m s) t :=
  openAfter_append_cons Mark.feed_not_mem_text m s t

/-- A further line is read after the lines before it. -/
theorem openAfter_joinLines_concat (ls : List (List Char)) (l : List Char) :
    openAfter none (Text.joinLines (ls ++ [l])) =
      openAfter (openAfter none (Text.joinLines ls)) l := by
  cases ls with
  | nil => simp
  | cons l' ls => rw [Text.joinLines_concat (by simp), openAfter_append_feed]

end GameFixes.Script
