import GameFixes.Proofs.Script.Literal
import GameFixes.Proofs.Script.Reading

/-!
# The end of a call

Which parenthesis closes a call, said by the nesting of the text before it and without a count:

* `Balanced s`: every bracket in `s` that is not in a literal has its partner in `s`;
* `Level s`: no bracket is open after `s`, though some that close may have closed nothing;
* `upToClose_level`: the search for the end of the call goes on after such a text;
* `exists_level_or`: a text has a parenthesis after such a text, or the search ends nowhere in it;
* `read?_argument`: hence the argument of every call that has an opening parenthesis.
-/

namespace GameFixes.Script

/-! ### Nesting -/

/-- A text whose brackets are nested. Any closing bracket closes any opening one, and in a literal
there are no brackets. -/
inductive Balanced : List Char → Prop
  | nil : Balanced []
  | plain {c : Char} (quote : isQuote c = false) (opens : opensBracket c = false)
    (closes : closesBracket c = false) : Balanced [c]
  | quoted {q : Char} {s v : List Char} (quote : isQuote q = true) (body : Says q s v) :
    Balanced (q :: (s ++ [q]))
  | bracketed {o c : Char} {s : List Char} (opens : opensBracket o = true)
    (closes : closesBracket c = true) (inner : Balanced s) : Balanced (o :: (s ++ [c]))
  | append {s t : List Char} (left : Balanced s) (right : Balanced t) : Balanced (s ++ t)

/-- A text after which no bracket and no literal is open: balanced texts, with closing brackets
between them that close nothing. A parenthesis that closes nothing would end the call. -/
inductive Level : List Char → Prop
  | balanced {s : List Char} (h : Balanced s) : Level s
  | stray {s t : List Char} {c : Char} (before : Balanced s) (closes : closesBracket c = true)
    (ne : c ≠ ')') (rest : Level t) : Level (s ++ c :: t)

variable {s t : List Char} {c q : Char}

/-! ### One step of the search -/

/-- A character that is no quote character and no bracket is passed over. -/
theorem upToClose_cons_of_plain (hq : isQuote c = false) (ho : opensBracket c = false)
    (hc : closesBracket c = false) (d : ℕ) (s : List Char) :
    upToClose d none (c :: s) = c :: upToClose d none s := by
  have hp : ¬ (c = ')' ∧ d = 0) := by
    rintro ⟨rfl, -⟩
    exact absurd hc (by decide)
  rw [upToClose, if_neg (by simp [hq]), if_neg (by simp [ho]), if_neg hp, if_neg (by simp [hc])]

theorem upToClose_cons_of_quote (hq : isQuote c = true) (d : ℕ) (s : List Char) :
    upToClose d none (c :: s) = c :: upToClose d (some c) s := by
  rw [upToClose, if_pos hq]

theorem isQuote_of_opens (h : opensBracket c = true) : isQuote c = false := by
  simp only [opensBracket, Bool.or_eq_true, beq_iff_eq] at h
  rcases h with (rfl | rfl) | rfl <;> decide

theorem isQuote_of_closes (h : closesBracket c = true) :
    isQuote c = false ∧ opensBracket c = false := by
  simp only [closesBracket, Bool.or_eq_true, beq_iff_eq] at h
  rcases h with (rfl | rfl) | rfl <;> decide

theorem upToClose_cons_of_opens (ho : opensBracket c = true) (d : ℕ) (s : List Char) :
    upToClose d none (c :: s) = c :: upToClose (d + 1) none s := by
  rw [upToClose, if_neg (by simp [isQuote_of_opens ho]), if_pos ho]

/-- A closing bracket closes one that is open, or nothing; only the parenthesis of the call ends
it. -/
theorem upToClose_cons_of_closes (hc : closesBracket c = true) {d : ℕ} (hd : ¬ (c = ')' ∧ d = 0))
    (s : List Char) : upToClose d none (c :: s) = c :: upToClose (d - 1) none s := by
  obtain ⟨hq, ho⟩ := isQuote_of_closes hc
  rw [upToClose, if_neg (by simp [hq]), if_neg (by simp [ho]), if_neg hd, if_pos hc]

/-! ### The search goes on -/

theorem upToClose_balanced (h : Balanced s) (d : ℕ) (r : List Char) :
    upToClose d none (s ++ r) = s ++ upToClose d none r := by
  induction h generalizing d r with
  | nil => rfl
  | plain quote opens closes => exact upToClose_cons_of_plain quote opens closes d r
  | quoted quote body =>
    simp only [List.cons_append, List.append_assoc, List.nil_append]
    rw [upToClose_cons_of_quote quote, upToClose_closed quote body]
  | bracketed opens closes inner ih =>
    simp only [List.cons_append, List.append_assoc, List.nil_append]
    rw [upToClose_cons_of_opens opens, ih, upToClose_cons_of_closes closes (by simp),
      Nat.add_sub_cancel]
  | append left right ihl ihr => rw [List.append_assoc, ihl, ihr, List.append_assoc]

theorem upToClose_level (h : Level s) (r : List Char) :
    upToClose 0 none (s ++ r) = s ++ upToClose 0 none r := by
  induction h with
  | balanced h => exact upToClose_balanced h 0 r
  | stray before closes ne rest ih =>
    rw [List.append_assoc, upToClose_balanced before, List.cons_append,
      upToClose_cons_of_closes closes (by simp [ne]), ih, List.append_assoc, List.cons_append]

/-- The parenthesis after such a text closes the call, whatever follows it. -/
theorem upToClose_level_close (h : Level s) (r : List Char) :
    upToClose 0 none (s ++ ')' :: r) = s := by
  rw [upToClose_level h, upToClose, if_neg (by decide), if_neg (by decide), if_pos ⟨rfl, rfl⟩,
    List.append_nil]

/-! ### The search ends -/

/-- A text in which no balanced text continues one before it: it starts with a bracket that closes
nothing in it, or with something that the search does not come out of. -/
def IsEdge (r : List Char) : Prop :=
  (∃ c t, r = c :: t ∧ closesBracket c = true) ∨ ∀ d, upToClose d none r = r

theorem exists_balanced_append (s : List Char) : ∃ e r, s = e ++ r ∧ Balanced e ∧ IsEdge r := by
  induction hn : s.length using Nat.strong_induction_on generalizing s with
  | _ n ih =>
    subst hn
    -- a balanced text in front of a shorter one is continued by what is balanced in that
    have continued : ∀ e t : List Char, s = e ++ t → e ≠ [] → Balanced e →
        ∃ e' r, s = e' ++ r ∧ Balanced e' ∧ IsEdge r := by
      rintro e t rfl he hbal
      have hlength := List.length_pos_of_ne_nil he
      obtain ⟨e', r, rfl, hbal', hr⟩ := ih t.length (by simp [hlength]) t rfl
      exact ⟨e ++ e', r, by simp, hbal.append hbal', hr⟩
    cases s with
    | nil => exact ⟨[], [], rfl, .nil, .inr fun d => by simp [upToClose]⟩
    | cons c s =>
      by_cases hq : isQuote c
      · rcases exists_says_or_unclosed c s with ⟨t, v, r, rfl, ht⟩ | hu
        · exact continued (c :: (t ++ [c])) r (by simp) (List.cons_ne_nil _ _) (.quoted hq ht)
        · refine ⟨[], c :: s, rfl, .nil, .inr fun d => ?_⟩
          rw [upToClose_cons_of_quote hq, upToClose_unclosed hu]
      · rw [Bool.not_eq_true] at hq
        by_cases ho : opensBracket c
        · obtain ⟨e, r, rfl, hbal, ⟨c', t, rfl, hc'⟩ | hr⟩ := ih s.length (by simp) s rfl
          · exact continued (c :: (e ++ [c'])) t (by simp) (List.cons_ne_nil _ _)
              (.bracketed ho hc' hbal)
          · refine ⟨[], c :: (e ++ r), rfl, .nil, .inr fun d => ?_⟩
            rw [upToClose_cons_of_opens ho, upToClose_balanced hbal, hr]
        · rw [Bool.not_eq_true] at ho
          by_cases hc : closesBracket c
          · exact ⟨[], c :: s, rfl, .nil, .inl ⟨c, s, rfl, hc⟩⟩
          · rw [Bool.not_eq_true] at hc
            exact continued [c] s rfl (List.cons_ne_nil _ _) (.plain hq ho hc)

/-- A parenthesis that closes the call is found, or there is none. -/
theorem exists_level_or (s : List Char) :
    (∃ e t, s = e ++ ')' :: t ∧ Level e) ∨ upToClose 0 none s = s := by
  induction hn : s.length using Nat.strong_induction_on generalizing s with
  | _ n ih =>
    subst hn
    obtain ⟨e, r, rfl, hbal, ⟨c, t, rfl, hc⟩ | hr⟩ := exists_balanced_append s
    · by_cases hp : c = ')'
      · exact .inl ⟨e, t, by rw [hp], .balanced hbal⟩
      · rcases ih t.length (by simp; omega) t rfl with ⟨e', t', rfl, hlevel⟩ | ht
        · exact .inl ⟨e ++ c :: e', t', by simp, .stray hbal hc hp hlevel⟩
        · refine .inr ?_
          rw [upToClose_balanced hbal, upToClose_cons_of_closes hc (by simp [hp]), ht]
    · exact .inr (by rw [upToClose_balanced hbal, hr])

/-- All of a text belongs to the call if no parenthesis in it closes the call. -/
theorem upToClose_eq_self_iff :
    upToClose 0 none s = s ↔ ∀ e t, s = e ++ ')' :: t → ¬ Level e := by
  constructor
  · rintro h e t rfl hlevel
    rw [upToClose_level_close hlevel] at h
    simp at h
  · intro h
    rcases exists_level_or s with ⟨e, t, hs, hlevel⟩ | hs
    · exact absurd hlevel (h e t hs)
    · exact hs

/-- The search ends at a parenthesis if no bracket and no literal is open before it. -/
theorem upToClose_append_eq_iff {r : List Char} :
    upToClose 0 none (s ++ ')' :: r) = s ↔ Level s := by
  refine ⟨fun h => ?_, fun h => upToClose_level_close h r⟩
  by_contra hlevel
  obtain ⟨e, t, hs, he⟩ | hs := exists_level_or (s ++ ')' :: r)
  · rw [hs, upToClose_level_close he] at h
    exact hlevel (h ▸ he)
  · simp [hs] at h

instance (s : List Char) : Decidable (Level s) :=
  decidable_of_iff (upToClose 0 none (s ++ [')']) = s) upToClose_append_eq_iff

/-! ### Calls -/

/-- **The argument of a call ends at the parenthesis that closes it.** That is the first one at
which no bracket and no literal is open, whatever follows it; if there is none on the line, all that
is left of the line is the argument. -/
theorem read?_argument {name blanks : List Char} (hname : isIdentifier name = true)
    (hblanks : ∀ c ∈ blanks, Text.isBlank c = true) :
    (∀ e t, Level e → Call.read? (callStart ++ (name ++ (blanks ++ '(' :: (e ++ ')' :: t)))) =
      some ⟨name, some (Text.trim e)⟩) ∧
    ∀ s, (∀ e t, s = e ++ ')' :: t → ¬ Level e) →
      Call.read? (callStart ++ (name ++ (blanks ++ '(' :: s))) =
        some ⟨name, some (Text.trim s)⟩ := by
  refine ⟨fun e t he => ?_, fun s hs => ?_⟩
  · rw [read?_parenthesis hname hblanks, upToClose_level_close he]
  · rw [read?_parenthesis hname hblanks, upToClose_eq_self_iff.2 hs]

/-- Parentheses in literals and in brackets do not close the call, and a line may end before any
other one. -/
theorem read?_argument_nested :
    Level "[')', (\"\\\")\"]], b".toList ∧
      Call.read? "util.f ([')', (\"\\\")\"]], b) # x)".toList =
        some ⟨"f".toList, some "[')', (\"\\\")\"]], b".toList⟩ ∧
      Call.read? "util.f (')', (b) ".toList = some ⟨"f".toList, some "')', (b)".toList⟩ := by
  have hlevel : Level "[')', (\"\\\")\"]], b".toList := by decide
  obtain ⟨hclosed, hopen⟩ :=
    @read?_argument "f".toList [' '] (by decide) (List.forall_mem_singleton.2 rfl)
  exact ⟨hlevel, hclosed _ " # x)".toList hlevel,
    hopen "')', (b) ".toList (upToClose_eq_self_iff.1 (by decide))⟩

end GameFixes.Script
