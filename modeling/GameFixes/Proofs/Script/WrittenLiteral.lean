import GameFixes.Proofs.Script.Brackets
import GameFixes.Proofs.Script.LiteralList
import GameFixes.Proofs.Script.Marks

/-!
# Written literals

A value is written as a literal between two equal quote characters, with a backslash before every
backslash and every quote character in it. Three scanners go over such a literal, each with its own
notion of where it ends, and all of them find the same end:

* `balanced_text`: the brackets of a call are matched after it, whatever it holds;
* `says_escape`: its value is what was written;
* `openAfter_literal`: it opens no triple-quoted text.

Each is stated for a literal, and then for a list of literals: `balanced_literalList`,
`literals?_literalList`, `openAfter_literalList`.
-/

namespace GameFixes.Script

/-- How a character of a value is written. -/
def escapeChar (c : Char) : List Char := if c = '\\' ∨ isQuote c then ['\\', c] else [c]

/-- How a value is written between quote characters. -/
def escape (v : List Char) : List Char := v.flatMap escapeChar

/-- A value and the quote character that it is written with. -/
structure WrittenLiteral where
  quote : Char
  value : List Char
  isQuote_quote : isQuote quote = true

/-- The text of a literal. -/
def WrittenLiteral.text (l : WrittenLiteral) : List Char := l.quote :: escape l.value ++ [l.quote]

/-- Literals after a first one, each with its comma. -/
def laterLiterals (ls : List WrittenLiteral) : List Char := ls.flatMap fun l => ',' :: ' ' :: l.text

/-- The text of a list of literals. -/
def literalList : List WrittenLiteral → List Char
  | [] => []
  | l :: ls => l.text ++ laterLiterals ls

theorem escape_cons (c : Char) (v : List Char) : escape (c :: v) = escapeChar c ++ escape v := rfl

theorem escapeChar_of_special {c : Char} (h : c = '\\' ∨ isQuote c = true) :
    escapeChar c = ['\\', c] := if_pos h

theorem escapeChar_of_plain {c : Char} (h : ¬ (c = '\\' ∨ isQuote c = true)) :
    escapeChar c = [c] := if_neg h

@[simp] theorem laterLiterals_nil : laterLiterals [] = [] := rfl

theorem laterLiterals_cons (l : WrittenLiteral) (ls : List WrittenLiteral) :
    laterLiterals (l :: ls) = ',' :: ' ' :: l.text ++ laterLiterals ls := rfl

theorem literalList_cons (l : WrittenLiteral) (ls : List WrittenLiteral) :
    literalList (l :: ls) = l.text ++ laterLiterals ls := rfl

theorem text_append (l : WrittenLiteral) (s : List Char) :
    l.text ++ s = l.quote :: (escape l.value ++ l.quote :: s) := by
  simp [WrittenLiteral.text]

theorem unescape_of_special {c : Char} (h : c = '\\' ∨ isQuote c = true) : unescape c = [c] :=
  if_pos h

/-- A value says itself where it is written. -/
theorem says_escape {q : Char} (hq : isQuote q = true) (v : List Char) : Says q (escape v) v := by
  induction v with
  | nil => exact .empty
  | cons c v ih =>
    rw [escape_cons]
    by_cases hc : c = '\\' ∨ isQuote c = true
    · have hsays := ih.escaped c
      rw [unescape_of_special hc] at hsays
      rwa [escapeChar_of_special hc]
    · rw [escapeChar_of_plain hc]
      rw [not_or] at hc
      exact ih.plain (fun e => hc.2 (e ▸ hq)) hc.1

/-! ### The end of the call -/

theorem balanced_text (l : WrittenLiteral) : Balanced l.text :=
  .quoted l.isQuote_quote (says_escape l.isQuote_quote l.value)

theorem balanced_laterLiterals (ls : List WrittenLiteral) : Balanced (laterLiterals ls) := by
  induction ls with
  | nil => exact .nil
  | cons l ls ih =>
    have hcomma : Balanced [','] := .plain (by decide) (by decide) (by decide)
    have hspace : Balanced [' '] := .plain (by decide) (by decide) (by decide)
    exact ((hcomma.append hspace).append (balanced_text l)).append ih

theorem balanced_literalList (ls : List WrittenLiteral) : Balanced (literalList ls) := by
  cases ls with
  | nil => exact .nil
  | cons l ls => exact (balanced_text l).append (balanced_laterLiterals ls)

/-! ### The values -/

/-- A literal with blanks in front is one still. -/
theorem isItem_append_text {b : List Char} (hb : ∀ c ∈ b, Text.isBlank c = true)
    (l : WrittenLiteral) : IsItem (b ++ l.text) l.value :=
  .intro hb l.isQuote_quote (says_escape l.isQuote_quote l.value) (List.forall_mem_nil _)

/-- What is written is listed; `b` are the blanks before the first literal. -/
theorem listsLiterals_append_literalList {b : List Char} (hb : ∀ c ∈ b, Text.isBlank c = true)
    (l : WrittenLiteral) (ls : List WrittenLiteral) :
    ListsLiterals (b ++ literalList (l :: ls)) ((l :: ls).map WrittenLiteral.value) := by
  induction ls generalizing b l with
  | nil =>
    have hitem := isItem_append_text hb l
    simpa [literalList_cons] using ListsLiterals.plain .nil hitem
  | cons l' ls ih =>
    have hrest := ih (b := [' ']) (List.forall_mem_singleton.2 rfl) l'
    simpa [literalList_cons, laterLiterals_cons] using hrest.cons (isItem_append_text hb l)

/-- A list of literals is read back. -/
theorem literals?_literalList (l : WrittenLiteral) (ls : List WrittenLiteral) :
    literals? (literalList (l :: ls)) = some ((l :: ls).map WrittenLiteral.value) :=
  literals?_of_listsLiterals (listsLiterals_append_literalList (List.forall_mem_nil _) l ls)

/-! ### Marks -/

/-- The text does not start with a quote character. -/
def StartsUnquoted (s : List Char) : Prop := ∀ c t, s = c :: t → isQuote c = false

theorem startsUnquoted_cons {c : Char} (h : isQuote c = false) (s : List Char) :
    StartsUnquoted (c :: s) := by
  rintro d t hd
  obtain ⟨rfl, -⟩ := List.cons.inj hd
  exact h

/-- A mark is three quote characters. -/
theorem isQuote_of_isPrefix {m : Mark} {s : List Char} (h : m.text <+: s) :
    ∃ c d e t, s = c :: d :: e :: t ∧ isQuote c = true ∧ isQuote d = true ∧ isQuote e = true := by
  obtain ⟨t, rfl⟩ := h
  cases m with
  | double => exact ⟨_, _, _, t, rfl, rfl, rfl, rfl⟩
  | single => exact ⟨_, _, _, t, rfl, rfl, rfl, rfl⟩

theorem openAfter_cons_of_plain {c : Char} (hc : isQuote c = false) (s : List Char) :
    openAfter none (c :: s) = openAfter none s := by
  refine openAfter_cons fun m hm => ?_
  obtain ⟨c', d, e, t, hs, hq, -, -⟩ := isQuote_of_isPrefix hm
  obtain ⟨rfl, -⟩ := List.cons.inj hs
  exact Bool.false_ne_true (hc.symm.trans hq)

theorem openAfter_append_of_plain {p : List Char} (h : ∀ c ∈ p, isQuote c = false)
    (s : List Char) : openAfter none (p ++ s) = openAfter none s := by
  induction p with
  | nil => rfl
  | cons c p ih =>
    rw [List.forall_mem_cons] at h
    rw [List.cons_append, openAfter_cons_of_plain h.1, ih h.2]

/-- One quote character is no mark. -/
theorem openAfter_cons_of_startsUnquoted {s : List Char} (hs : StartsUnquoted s) (c : Char) :
    openAfter none (c :: s) = openAfter none s := by
  refine openAfter_cons fun m hm => ?_
  obtain ⟨c', d, e, t, he, -, hd, -⟩ := isQuote_of_isPrefix hm
  exact Bool.false_ne_true ((hs d (e :: t) (List.cons.inj he).2).symm.trans hd)

/-- Two quote characters are no mark. -/
theorem openAfter_cons_cons_of_startsUnquoted {s : List Char} (hs : StartsUnquoted s)
    (c c' : Char) : openAfter none (c :: c' :: s) = openAfter none s := by
  rw [← openAfter_cons_of_startsUnquoted hs c']
  refine openAfter_cons fun m hm => ?_
  obtain ⟨b, d, e, t, he, -, -, hq⟩ := isQuote_of_isPrefix hm
  have hs' : s = e :: t := (List.cons.inj (List.cons.inj he).2).2
  exact Bool.false_ne_true ((hs e t hs').symm.trans hq)

/-- What is written for a character starts with a backslash or with a character that is no quote. -/
theorem startsUnquoted_escape_cons (c : Char) (v s : List Char) :
    StartsUnquoted (escape (c :: v) ++ s) := by
  rw [escape_cons]
  by_cases hc : c = '\\' ∨ isQuote c = true
  · rw [escapeChar_of_special hc]
    exact startsUnquoted_cons (by decide) _
  · rw [escapeChar_of_plain hc]
    rw [not_or, Bool.not_eq_true] at hc
    exact startsUnquoted_cons hc.2 _

/-- The quote characters of a value stand alone or before the closing one, so there are never three
of them together; `b` is the character before the rest of the value. -/
theorem openAfter_escape {s : List Char} (hs : StartsUnquoted s) (q b : Char) (v : List Char) :
    openAfter none (b :: (escape v ++ q :: s)) = openAfter none s := by
  induction v generalizing b with
  | nil => exact openAfter_cons_cons_of_startsUnquoted hs b q
  | cons c v ih =>
    rw [openAfter_cons_of_startsUnquoted (startsUnquoted_escape_cons c v (q :: s)), escape_cons]
    by_cases hc : c = '\\' ∨ isQuote c = true
    · rw [escapeChar_of_special hc]
      simp only [List.cons_append, List.nil_append]
      rw [openAfter_cons_of_plain (by decide), ih]
    · rw [escapeChar_of_plain hc]
      simp only [List.cons_append, List.nil_append]
      exact ih c

theorem openAfter_literal (l : WrittenLiteral) {s : List Char} (hs : StartsUnquoted s) :
    openAfter none (l.text ++ s) = openAfter none s := by
  rw [text_append]
  exact openAfter_escape hs l.quote l.quote l.value

theorem startsUnquoted_laterLiterals (ls : List WrittenLiteral) {s : List Char}
    (hs : StartsUnquoted s) : StartsUnquoted (laterLiterals ls ++ s) := by
  cases ls with
  | nil => exact hs
  | cons l ls => exact startsUnquoted_cons (by decide) _

theorem openAfter_laterLiterals (ls : List WrittenLiteral) {s : List Char}
    (hs : StartsUnquoted s) : openAfter none (laterLiterals ls ++ s) = openAfter none s := by
  induction ls with
  | nil => rfl
  | cons l ls ih =>
    rw [laterLiterals_cons, List.append_assoc]
    simp only [List.cons_append]
    rw [openAfter_cons_of_plain (by decide), openAfter_cons_of_plain (by decide),
      openAfter_literal l (startsUnquoted_laterLiterals ls hs), ih]

/-- A list of literals opens no triple-quoted text. -/
theorem openAfter_literalList (ls : List WrittenLiteral) {s : List Char}
    (hs : StartsUnquoted s) : openAfter none (literalList ls ++ s) = openAfter none s := by
  cases ls with
  | nil => rfl
  | cons l ls =>
    rw [literalList_cons, List.append_assoc,
      openAfter_literal l (startsUnquoted_laterLiterals ls hs), openAfter_laterLiterals ls hs]

end GameFixes.Script
