import GameFixes.Script.Call
import Mathlib.Data.List.Induction

/-!
# Inside a literal

What stands between the quote characters of a literal, and how two scanners go over it. One reads
its value, the other one looks for the end of the call; both leave it at the same place:

* `Says q s v`: the text `s` between two quote characters `q` says the value `v`;
* `Unclosed q s`: no quote character in the text `s` closes a literal that `q` opened before it;
* `exists_says_or_unclosed`: a literal that is open is closed somewhere, or unclosed;
* `readLiterals_closed`, `readLiterals_unclosed`: what is read of it;
* `upToClose_closed`, `upToClose_unclosed`: brackets in it do not count.
-/

namespace GameFixes.Script

/-- A text between two quote characters `q`, and the value that it says. -/
inductive Says (q : Char) : List Char → List Char → Prop
  | empty : Says q [] []
  | escaped (c : Char) {s v : List Char} : Says q s v → Says q ('\\' :: c :: s) (unescape c ++ v)
  | plain {c : Char} {s v : List Char} (quote : c ≠ q) (backslash : c ≠ '\\') :
    Says q s v → Says q (c :: s) (c :: v)

/-- A text in which every quote character `q` is protected. -/
inductive Unclosed (q : Char) : List Char → Prop
  | empty : Unclosed q []
  /-- There is nothing left to protect. -/
  | backslash : Unclosed q ['\\']
  | escaped (c : Char) {s : List Char} : Unclosed q s → Unclosed q ('\\' :: c :: s)
  | plain {c : Char} {s : List Char} (quote : c ≠ q) (backslash : c ≠ '\\') :
    Unclosed q s → Unclosed q (c :: s)

variable {q c : Char} {s t v : List Char}

theorem isQuote_ne_backslash (h : isQuote q = true) : q ≠ '\\' := by
  rintro rfl
  exact absurd h (by decide)

theorem isBlank_of_isQuote (h : isQuote q = true) : Text.isBlank q = false := by
  simp only [isQuote, Bool.or_eq_true, beq_iff_eq] at h
  rcases h with rfl | rfl <;> decide

/-- A literal that is open is closed by the first quote character that stands for itself, or not at
all. -/
theorem exists_says_or_unclosed (q : Char) (s : List Char) :
    (∃ t v r, s = t ++ q :: r ∧ Says q t v) ∨ Unclosed q s := by
  induction s using List.twoStepInduction with
  | nil => exact .inr .empty
  | singleton c =>
    by_cases hc : c = q
    · exact .inl ⟨[], [], [], by rw [hc]; rfl, .empty⟩
    · by_cases hb : c = '\\'
      · exact .inr (hb ▸ .backslash)
      · exact .inr (.plain hc hb .empty)
  | cons_cons c d s ih ih' =>
    by_cases hc : c = q
    · exact .inl ⟨[], [], d :: s, by rw [hc]; rfl, .empty⟩
    · by_cases hb : c = '\\'
      · subst hb
        rcases ih with ⟨t, v, r, rfl, ht⟩ | h
        · exact .inl ⟨'\\' :: d :: t, _, r, rfl, ht.escaped d⟩
        · exact .inr (h.escaped d)
      · rcases ih' d with ⟨t, v, r, hs, ht⟩ | h
        · exact .inl ⟨c :: t, _, r, by rw [hs]; rfl, ht.plain hc hb⟩
        · exact .inr (.plain hc hb h)

/-! ### The value -/

theorem map_consChars_map_cons (cs v : List Char) (o : Option (List (List Char))) :
    (o.map (v :: ·)).map (consChars cs) = o.map ((cs ++ v) :: ·) := by
  cases o <;> rfl

/-- The quote character that opened a literal closes it. -/
theorem readLiterals_inside_quote (hq : isQuote q = true) (s : List Char) :
    readLiterals (.inside q) (q :: s) = (readLiterals .after s).map ([] :: ·) := by
  rw [readLiterals, if_pos rfl]
  intro c s hc
  exact absurd hc (isQuote_ne_backslash hq)

/-- Another character is part of the value. -/
theorem readLiterals_inside_cons (hq : c ≠ q) (hb : c ≠ '\\') (s : List Char) :
    readLiterals (.inside q) (c :: s) = (readLiterals (.inside q) s).map (consChars [c]) := by
  rw [readLiterals, if_neg hq]
  intro c s hc
  exact absurd hc hb

/-- A literal is read as what it says, up to the quote character that closes it. -/
theorem readLiterals_closed (hq : isQuote q = true) (h : Says q t v) (r : List Char) :
    readLiterals (.inside q) (t ++ q :: r) = (readLiterals .after r).map (v :: ·) := by
  induction h with
  | empty => exact readLiterals_inside_quote hq r
  | escaped c h ih =>
    rw [List.cons_append, List.cons_append, readLiterals, ih, map_consChars_map_cons]
  | plain quote backslash h ih =>
    rw [List.cons_append, readLiterals_inside_cons quote backslash, ih, map_consChars_map_cons]
    rfl

/-- Nothing is read of a literal that is not closed. -/
theorem readLiterals_unclosed (hq : isQuote q = true) (h : Unclosed q s) :
    readLiterals (.inside q) s = none := by
  induction h with
  | empty => rfl
  | backslash => simp [readLiterals, (isQuote_ne_backslash hq).symm]
  | escaped c h ih => rw [readLiterals, ih, Option.map_none]
  | plain quote backslash h ih => rw [readLiterals_inside_cons quote backslash, ih, Option.map_none]

/-! ### The end of the call -/

theorem upToClose_inside_quote (hq : isQuote q = true) (d : ℕ) (s : List Char) :
    upToClose d (some q) (q :: s) = q :: upToClose d none s := by
  rw [upToClose, if_pos rfl]
  intro c s hc
  exact absurd hc (isQuote_ne_backslash hq)

theorem upToClose_inside_cons (hq : c ≠ q) (hb : c ≠ '\\') (d : ℕ) (s : List Char) :
    upToClose d (some q) (c :: s) = c :: upToClose d (some q) s := by
  rw [upToClose, if_neg hq]
  intro c s hc
  exact absurd hc hb

/-- Brackets in a literal are passed over, up to the quote character that closes it. -/
theorem upToClose_closed (hq : isQuote q = true) (h : Says q t v) (d : ℕ) (r : List Char) :
    upToClose d (some q) (t ++ q :: r) = t ++ q :: upToClose d none r := by
  induction h with
  | empty => exact upToClose_inside_quote hq d r
  | escaped c h ih => simp only [List.cons_append, upToClose, ih]
  | plain quote backslash h ih =>
    rw [List.cons_append, upToClose_inside_cons quote backslash, ih, List.cons_append]

/-- Brackets in a literal that is not closed are passed over up to the end. -/
theorem upToClose_unclosed (h : Unclosed q s) (d : ℕ) : upToClose d (some q) s = s := by
  induction h with
  | empty => rfl
  | backslash => simp [upToClose]
  | escaped c h ih => rw [upToClose, ih]
  | plain quote backslash h ih => rw [upToClose_inside_cons quote backslash, ih]

end GameFixes.Script
