import GameFixes.Proofs.Script.Literal
import GameFixes.Proofs.Text

/-!
# Lists of literals

The texts from which the reader of literals gets values, as a grammar, and the values that they
list:

* `IsItem s v`: the text `s` is a literal of the value `v`, with blanks around it;
* `IsHead p vs`: the text `p` is literals of the values `vs`, each with a comma after it;
* `ListsLiterals s vs`: the text `s` is literals of the values `vs`, separated by commas;
* `readLiterals_isHead`: the reader goes through literals with their commas, whatever follows them;
* `listsLiterals_of_readLiterals`: where it gets values, there are literals;
* `literals?_exact`: it gets exactly the values that are listed, and stops with nothing at the first
  place where the grammar is broken.
-/

namespace GameFixes.Script

/-! ### The grammar -/

/-- A text that is a literal of a value, with blanks around it. -/
inductive IsItem : List Char → List Char → Prop
  | intro {p t r v : List Char} {q : Char} (before : ∀ c ∈ p, Text.isBlank c = true)
    (quote : isQuote q = true) (body : Says q t v) (after : ∀ c ∈ r, Text.isBlank c = true) :
    IsItem (p ++ q :: (t ++ q :: r)) v

/-- A text that is literals of some values, each with a comma after it. -/
inductive IsHead : List Char → List (List Char) → Prop
  | nil : IsHead [] []
  | cons {s p v : List Char} {vs : List (List Char)} (item : IsItem s v) (rest : IsHead p vs) :
    IsHead (s ++ ',' :: p) (v :: vs)

/-- A text that is one or more literals of some values, separated by commas. -/
inductive ListsLiterals : List Char → List (List Char) → Prop
  /-- The last literal has no comma after it. -/
  | plain {p s v : List Char} {vs : List (List Char)} (head : IsHead p vs) (last : IsItem s v) :
    ListsLiterals (p ++ s) (vs ++ [v])
  /-- The last literal has a comma after it, too. -/
  | comma {p b : List Char} {vs : List (List Char)} (head : IsHead p vs) (ne : vs ≠ [])
    (blank : ∀ c ∈ b, Text.isBlank c = true) : ListsLiterals (p ++ b) vs

/-- A text in which something stands where the grammar has no place for it. -/
inductive IsBroken : List Char → Prop
  /-- There is no literal. -/
  | nothing {b : List Char} (blank : ∀ c ∈ b, Text.isBlank c = true) : IsBroken b
  /-- A comma stands first, or after another comma. -/
  | comma {p b : List Char} {vs : List (List Char)} (s : List Char) (head : IsHead p vs)
    (blank : ∀ c ∈ b, Text.isBlank c = true) : IsBroken (p ++ (b ++ ',' :: s))
  /-- There is no comma between two literals. -/
  | adjacent {p l v : List Char} {vs : List (List Char)} {q : Char} (s : List Char)
    (head : IsHead p vs) (item : IsItem l v) (quote : isQuote q = true) :
    IsBroken (p ++ (l ++ q :: s))
  /-- Three quote characters stand where a literal begins. -/
  | triple {p b : List Char} {vs : List (List Char)} {q : Char} (s : List Char)
    (head : IsHead p vs) (blank : ∀ c ∈ b, Text.isBlank c = true) (quote : isQuote q = true) :
    IsBroken (p ++ (b ++ q :: q :: q :: s))

variable {s p b v : List Char} {vs : List (List Char)} {mayEnd : Bool}

/-! ### What is listed is read -/

theorem readLiterals_before_trimStart (mayEnd : Bool) (s : List Char) :
    readLiterals (.before mayEnd) (Text.trimStart s) = readLiterals (.before mayEnd) s := by
  induction s with
  | nil => rfl
  | cons c s ih =>
    by_cases hc : Text.isBlank c
    · rw [Text.trimStart_cons_of_blank hc, ih, readLiterals, if_pos hc]
    · rw [Text.trimStart_cons_of_not_blank (by simpa using hc)]

theorem readLiterals_before_append_of_blank (hb : ∀ c ∈ b, Text.isBlank c = true) (s : List Char) :
    readLiterals (.before mayEnd) (b ++ s) = readLiterals (.before mayEnd) s := by
  rw [← readLiterals_before_trimStart, Text.trimStart_append_of_blank hb,
    readLiterals_before_trimStart]

theorem readLiterals_after_append_of_blank (hb : ∀ c ∈ b, Text.isBlank c = true) (s : List Char) :
    readLiterals .after (b ++ s) = readLiterals .after s := by
  induction b with
  | nil => rfl
  | cons c b ih =>
    rw [List.forall_mem_cons] at hb
    rw [List.cons_append, readLiterals, if_pos hb.1, ih hb.2]

/-- A literal is read wherever one may begin. -/
theorem readLiterals_isItem (h : IsItem s v) (r : List Char) :
    readLiterals (.before mayEnd) (s ++ r) = (readLiterals .after r).map (v :: ·) := by
  obtain ⟨before, quote, body, after⟩ := h
  rw [List.append_assoc, readLiterals_before_append_of_blank before]
  simp only [List.cons_append, List.append_assoc]
  rw [readLiterals, if_neg (by simp [isBlank_of_isQuote quote]), if_pos quote,
    readLiterals_closed quote body, readLiterals_after_append_of_blank after]

/-- Literals are read up to the comma of the last one, and after a comma the list may end. -/
theorem readLiterals_isHead (h : IsHead p vs) (r : List Char) :
    readLiterals (.before mayEnd) (p ++ r) =
      (readLiterals (.before (mayEnd || !vs.isEmpty)) r).map (vs ++ ·) := by
  induction h generalizing mayEnd with
  | nil => simp
  | cons item rest ih =>
    rw [List.append_assoc, readLiterals_isItem item, List.cons_append, readLiterals,
      if_neg (by decide), if_pos rfl, ih]
    simp [Function.comp_def]

/-- What a text lists is read from it. -/
theorem literals?_of_listsLiterals (h : ListsLiterals s vs) : literals? s = some vs := by
  rw [literals?]
  cases h with
  | @plain p s v vs head last =>
    rw [readLiterals_isHead head, ← List.append_nil s, readLiterals_isItem last]
    rfl
  | @comma p b vs head ne blank =>
    rw [readLiterals_isHead head, ← List.append_nil b, readLiterals_before_append_of_blank blank]
    simp [ne, readLiterals]

/-! ### What is read is listed -/

theorem readLiterals_after_trimStart (s : List Char) :
    readLiterals .after (Text.trimStart s) = readLiterals .after s := by
  obtain ⟨b, hs, hb⟩ := Text.exists_eq_append_trimStart s
  conv_rhs => rw [hs, readLiterals_after_append_of_blank hb]

/-- After a literal there is nothing, or a comma and what is listed after it. -/
theorem exists_eq_of_readLiterals_after (h : readLiterals .after s = some vs) :
    ∃ b, (∀ c ∈ b, Text.isBlank c = true) ∧ ((s = b ∧ vs = []) ∨
      ∃ r, s = b ++ ',' :: r ∧ readLiterals (.before true) r = some vs) := by
  obtain ⟨b, hs, hb⟩ := Text.exists_eq_append_trimStart s
  refine ⟨b, hb, ?_⟩
  rw [← readLiterals_after_trimStart] at h
  cases ht : Text.trimStart s with
  | nil =>
    rw [ht, readLiterals, Option.some.injEq] at h
    exact .inl ⟨by rw [hs, ht, List.append_nil], h.symm⟩
  | cons c r =>
    rw [ht, readLiterals, if_neg (by simp [Text.isBlank_of_trimStart_eq_cons ht])] at h
    obtain ⟨rfl, h⟩ := Option.ite_none_right_eq_some.1 h
    exact .inr ⟨r, by rw [← ht, ← hs], h⟩

/-- Where a literal may begin there is nothing, or a literal and what is listed after it. -/
theorem exists_isItem_of_readLiterals (h : readLiterals (.before mayEnd) s = some vs) :
    ((∀ c ∈ s, Text.isBlank c = true) ∧ mayEnd = true ∧ vs = []) ∨
      ∃ i v ws, IsItem i v ∧ vs = v :: ws ∧ ((s = i ∧ ws = []) ∨
        ∃ r, s = i ++ ',' :: r ∧ readLiterals (.before true) r = some ws) := by
  obtain ⟨b, hs, hb⟩ := Text.exists_eq_append_trimStart s
  rw [← readLiterals_before_trimStart] at h
  cases ht : Text.trimStart s with
  | nil =>
    rw [ht, readLiterals, Option.ite_none_right_eq_some, Option.some.injEq] at h
    exact .inl ⟨Text.trimStart_eq_nil_iff.1 ht, h.1, h.2.symm⟩
  | cons q u =>
    rw [ht, readLiterals, if_neg (by simp [Text.isBlank_of_trimStart_eq_cons ht]),
      Option.ite_none_right_eq_some] at h
    obtain ⟨hq, h⟩ := h
    rcases exists_says_or_unclosed q u with ⟨t, v, r, rfl, hv⟩ | hu
    · rw [readLiterals_closed hq hv, Option.map_eq_some_iff] at h
      obtain ⟨ws, hws, rfl⟩ := h
      obtain ⟨b', hb', ⟨rfl, rfl⟩ | ⟨r, rfl, hr⟩⟩ := exists_eq_of_readLiterals_after hws
      · exact .inr ⟨s, v, [], by rw [hs, ht]; exact .intro hb hq hv hb', rfl, .inl ⟨rfl, rfl⟩⟩
      · refine .inr ⟨_, v, ws, .intro hb hq hv hb', rfl, .inr ⟨r, ?_, hr⟩⟩
        rw [hs, ht]
        simp
    · rw [readLiterals_unclosed hq hu] at h
      cases h

/-- One more literal with its comma in front. -/
theorem ListsLiterals.cons {r : List Char} (h : ListsLiterals r vs) (item : IsItem s v) :
    ListsLiterals (s ++ ',' :: r) (v :: vs) := by
  cases h with
  | plain head last => simpa using ListsLiterals.plain (.cons item head) last
  | comma head ne blank =>
    simpa using ListsLiterals.comma (.cons item head) (List.cons_ne_nil v vs) blank

/-- Where values are read, they are listed; after a comma there may be none. -/
theorem listsLiterals_of_readLiterals (h : readLiterals (.before mayEnd) s = some vs) :
    ListsLiterals s vs ∨ (∀ c ∈ s, Text.isBlank c = true) ∧ mayEnd = true ∧ vs = [] := by
  induction vs generalizing s mayEnd with
  | nil =>
    rcases exists_isItem_of_readLiterals h with hblank | ⟨i, v, ws, -, hv, -⟩
    · exact .inr hblank
    · cases hv
  | cons v vs ih =>
    rcases exists_isItem_of_readLiterals h with ⟨-, -, hv⟩ | ⟨i, w, ws, item, hv, hrest⟩
    · cases hv
    · obtain ⟨rfl, rfl⟩ := List.cons.inj hv
      refine .inl ?_
      rcases hrest with ⟨rfl, rfl⟩ | ⟨r, rfl, hr⟩
      · exact .plain .nil item
      · rcases ih hr with hlist | ⟨hblank, -, rfl⟩
        · exact hlist.cons item
        · simpa using ListsLiterals.comma (.cons item .nil) (List.cons_ne_nil v []) hblank

theorem literals?_eq_some_iff {raw : List Char} :
    literals? raw = some vs ↔ ListsLiterals raw vs := by
  refine ⟨fun h => ?_, literals?_of_listsLiterals⟩
  rcases listsLiterals_of_readLiterals h with hlist | ⟨-, hend, -⟩
  · exact hlist
  · cases hend

/-! ### Where the grammar is broken -/

theorem readLiterals_before_of_not {c : Char} (hb : Text.isBlank c = false)
    (hq : isQuote c = false) (r : List Char) : readLiterals (.before mayEnd) (c :: r) = none := by
  rw [readLiterals, if_neg (by simp [hb]), if_neg (by simp [hq])]

/-- A quote character directly after a literal ends the reading. -/
theorem readLiterals_isItem_quote {q : Char} (item : IsItem s v) (hq : isQuote q = true)
    (r : List Char) : readLiterals (.before mayEnd) (s ++ q :: r) = none := by
  have hcomma : q ≠ ',' := by
    rintro rfl
    exact absurd hq (by decide)
  rw [readLiterals_isItem item, readLiterals, if_neg (by simp [isBlank_of_isQuote hq]),
    if_neg hcomma, Option.map_none]

theorem literals?_of_isBroken {raw : List Char} (h : IsBroken raw) : literals? raw = none := by
  rw [literals?]
  cases h with
  | nothing blank =>
    rw [← List.append_nil raw, readLiterals_before_append_of_blank blank]
    rfl
  | comma s head blank =>
    rw [readLiterals_isHead head, readLiterals_before_append_of_blank blank,
      readLiterals_before_of_not (by decide) (by decide), Option.map_none]
  | adjacent s head item quote =>
    rw [readLiterals_isHead head, readLiterals_isItem_quote item quote, Option.map_none]
  | @triple p b vs q s head blank quote =>
    -- the first two quote characters are a literal that is empty
    have item : IsItem (b ++ [q, q]) [] := .intro blank quote .empty (List.forall_mem_nil _)
    have hb : b ++ q :: q :: q :: s = b ++ [q, q] ++ q :: s := by simp
    rw [readLiterals_isHead head, hb, readLiterals_isItem_quote item quote, Option.map_none]

/-- **The reader of literals accepts its grammar and nothing else.** It gets the values that a text
lists, and none if the text lists nothing: if there is no literal, if a comma stands first or after
another one, if no comma stands between two literals, and if three quote characters stand where a
literal begins. -/
theorem literals?_exact (raw : List Char) :
    (∀ vs, literals? raw = some vs ↔ ListsLiterals raw vs) ∧
    (literals? raw = none ↔ ∀ vs, ¬ ListsLiterals raw vs) ∧
    (IsBroken raw → literals? raw = none) := by
  refine ⟨fun vs => literals?_eq_some_iff, ?_, literals?_of_isBroken⟩
  rw [Option.eq_none_iff_forall_ne_some]
  exact forall_congr' fun vs => not_congr literals?_eq_some_iff

/-- A quote character that is protected closes nothing, a list may end with a comma, and blanks are
no comma. -/
theorem literals?_exact_adjacent :
    ListsLiterals "'it\\'s', \"\\n\" ,".toList ["it's".toList, "\\n".toList] ∧
      IsBroken "'a' \"b\"".toList ∧ literals? "'a' \"b\"".toList = none := by
  have hbroken : IsBroken "'a' \"b\"".toList :=
    .adjacent (p := []) (l := "'a' ".toList) (q := '"') "b\"".toList .nil
      (.intro (p := []) (t := ['a']) (r := [' ']) (List.forall_mem_nil _) rfl
        (.plain (by decide) (by decide) .empty) (List.forall_mem_singleton.2 rfl)) rfl
  exact ⟨((literals?_exact _).1 _).1 (by decide), hbroken, (literals?_exact _).2.2 hbroken⟩

end GameFixes.Script
