import GameFixes.Proofs.Text

/-!
# Comma separated records

Records as a text, by the usual rules: fields stand between commas, records between line breaks, and
a field between double quotes may hold commas, line breaks and, each written twice, double quotes.

* `read place s`: the records in a text, if it follows the rules;
* `line r`: the fields of a record with commas between them, and nothing done about what they hold;
* `two_mul_count_quote_le`, `isPlain_of_read`: how many quotes a text needs for those in its fields,
  and what cannot be in a field without them;
* `read_endLines_iff`: lines of fields are read back if and only if no field has a character that
  means something else.
-/

namespace GameFixes.Csv

/-- The fields of a record. -/
abbrev Record := List (List Char)

/-- Where a reader stands. -/
inductive Place
  /-- In front of a record. -/
  | record
  /-- In front of a field that is not the first one. -/
  | field
  /-- Inside a field without quotes around it. -/
  | bare
  /-- Inside a field with quotes around it. -/
  | quoted
  /-- Behind the quote that closes a field. -/
  | closed
  deriving DecidableEq

/-- Whether a field begins there. -/
def Place.isStart : Place → Bool
  | .record | .field => true
  | .bare | .quoted | .closed => false

/-- Puts a character in front of the first field. -/
def consChar (c : Char) : List Record → List Record
  | [] => [[[c]]]
  | [] :: rs => [[c]] :: rs
  | (f :: fs) :: rs => ((c :: f) :: fs) :: rs

/-- Puts a field in front of the first record. -/
def consField (f : List Char) : List Record → List Record
  | [] => [[f]]
  | r :: rs => (f :: r) :: rs

/-- The records still to come, the first of them without what was read of it before. -/
def read : Place → List Char → Option (List Record)
  | .record, [] => some []
  | .quoted, [] => none
  | _, [] => some [[[]]]
  | .quoted, '"' :: '"' :: s => (read .quoted s).map (consChar '"')
  | .quoted, c :: s => if c = '"' then read .closed s else (read .quoted s).map (consChar c)
  | p, c :: s =>
    if c = ',' then (read .field s).map (consField [])
    else if c = '\n' then (read .record s).map ([[]] :: ·)
    -- a carriage return belongs to the line feed after it
    else if c = '\r' then if s.head? = some '\n' then read p s else none
    else if c = '"' then if p.isStart then read .quoted s else none
    else if p = .closed then none
    else (read .bare s).map (consChar c)

/-- Quotes protect a comma and, written twice, a quote. -/
example : read .record "\"a,\"\"b\",c\r\n".toList = some [["a,\"b".toList, "c".toList]] := by decide

/-- Whether a character means something outside quotes. -/
def IsSign (c : Char) : Prop := c = ',' ∨ c = '\n' ∨ c = '\r' ∨ c = '"'

instance : DecidablePred IsSign := fun _ => inferInstanceAs (Decidable (_ ∨ _))

/-- A field without characters that mean something outside quotes. -/
def IsPlain (f : List Char) : Prop := ∀ c ∈ f, ¬ IsSign c

instance : DecidablePred IsPlain := fun _ => inferInstanceAs (Decidable (∀ _ ∈ _, _))

/-- The fields of a record with commas between them. -/
def line (r : Record) : List Char := [','].intercalate r

/-! ### Quotes -/

/-- The characters in the fields of records. -/
def characters (rs : List Record) : List Char := rs.flatten.flatten

@[simp] theorem characters_consChar (c : Char) (rs : List Record) :
    characters (consChar c rs) = c :: characters rs := by
  rcases rs with _ | ⟨_ | ⟨f, fs⟩, rs⟩ <;> simp [characters, consChar]

theorem characters_cons (r : Record) (rs : List Record) :
    characters (r :: rs) = r.flatten ++ characters rs := by
  simp [characters]

@[simp] theorem characters_consField (f : List Char) (rs : List Record) :
    characters (consField f rs) = f ++ characters rs := by
  cases rs <;> simp [characters, consField]

/-- A quote in a field is written twice, so a text has two quotes at least for each. -/
theorem two_mul_count_quote_le {p : Place} {s : List Char} {rs : List Record}
    (h : read p s = some rs) : 2 * (characters rs).count '"' ≤ s.count '"' := by
  fun_induction read p s generalizing rs with
  | case1 | case3 =>
    obtain rfl := Option.some.inj h
    simp [characters]
  | case2 | case10 | case12 | case13 => cases h
  | case4 s ih =>
    obtain ⟨rs, hrs, rfl⟩ := Option.map_eq_some_iff.1 h
    have := ih hrs
    simp only [characters_consChar, List.count_cons_self]
    omega
  | case5 s _ ih | case11 p s _ _ _ _ _ _ ih =>
    have := ih h
    rw [List.count_cons_self]
    omega
  | case6 c s _ hc ih | case14 p c s _ _ _ _ _ hc _ ih =>
    obtain ⟨rs, hrs, rfl⟩ := Option.map_eq_some_iff.1 h
    rw [characters_consChar, List.count_cons_of_ne hc, List.count_cons_of_ne hc]
    exact ih hrs
  | case7 p s _ _ ih =>
    obtain ⟨rs, hrs, rfl⟩ := Option.map_eq_some_iff.1 h
    rw [characters_consField, List.nil_append, List.count_cons_of_ne (by decide)]
    exact ih hrs
  | case8 p s _ _ _ ih =>
    obtain ⟨rs, hrs, rfl⟩ := Option.map_eq_some_iff.1 h
    rw [characters_cons, List.count_cons_of_ne (by decide)]
    exact ih hrs
  | case9 p s _ _ _ _ _ ih =>
    rw [List.count_cons_of_ne (by decide)]
    exact ih h

/-- What is read without quotes has no character that means something outside them. -/
theorem isPlain_of_read {p : Place} {s : List Char} {rs : List Record} (hp : p ≠ .quoted)
    (hs : '"' ∉ s) (h : read p s = some rs) : IsPlain (characters rs) := by
  fun_induction read p s generalizing rs with
  | case1 | case3 =>
    obtain rfl := Option.some.inj h
    simp [characters, IsPlain]
  | case2 | case4 | case5 | case6 => exact absurd rfl hp
  | case10 | case12 | case13 => cases h
  | case11 => exact absurd List.mem_cons_self hs
  | case7 p s _ _ ih =>
    obtain ⟨rs, hrs, rfl⟩ := Option.map_eq_some_iff.1 h
    rw [characters_consField]
    exact ih nofun (fun hm => hs (List.mem_cons_of_mem _ hm)) hrs
  | case8 p s _ _ _ ih =>
    obtain ⟨rs, hrs, rfl⟩ := Option.map_eq_some_iff.1 h
    rw [characters_cons]
    exact ih nofun (fun hm => hs (List.mem_cons_of_mem _ hm)) hrs
  | case9 p s _ _ _ _ _ ih => exact ih hp (fun hm => hs (List.mem_cons_of_mem _ hm)) h
  | case14 p c s _ _ hcomma hfeed hreturn hquote _ ih =>
    obtain ⟨rs, hrs, rfl⟩ := Option.map_eq_some_iff.1 h
    have hc : ¬ IsSign c := by simp [IsSign, hcomma, hfeed, hreturn, hquote]
    rw [characters_consChar, IsPlain, List.forall_mem_cons]
    exact ⟨hc, ih nofun (fun hm => hs (List.mem_cons_of_mem _ hm)) hrs⟩

/-! ### Lines of fields -/

@[simp] theorem line_singleton (f : List Char) : line [f] = f := by simp [line]

theorem line_cons_cons (f g : List Char) (r : Record) :
    line (f :: g :: r) = f ++ ',' :: line (g :: r) := by
  simp [line, List.intercalate]

section Plain

variable {p : Place} (hq : p ≠ .quoted) (hc : p ≠ .closed)

include hq hc

theorem read_cons_of_not_isSign {c : Char} (h : ¬ IsSign c) (s : List Char) :
    read p (c :: s) = (read .bare s).map (consChar c) := by
  simp only [IsSign, not_or] at h
  cases p <;> simp_all [read]

/-- A plain field is read up to the comma behind it. -/
theorem read_append_comma {f : List Char} (hf : IsPlain f) (s : List Char) :
    read p (f ++ ',' :: s) = (read .field s).map (consField f) := by
  induction f generalizing p with
  | nil => cases p <;> simp_all [read]
  | cons c f ih =>
    rw [IsPlain, List.forall_mem_cons] at hf
    rw [List.cons_append, read_cons_of_not_isSign hq hc hf.1, ih (p := .bare) nofun nofun hf.2,
      Option.map_map]
    congr 1
    funext rs
    cases rs <;> rfl

/-- A plain field at the end of a line is the last one of its record. -/
theorem read_append_feed {f : List Char} (hf : IsPlain f) (s : List Char) :
    read p (f ++ '\n' :: s) = (read .record s).map ([f] :: ·) := by
  induction f generalizing p with
  | nil => cases p <;> simp_all [read]
  | cons c f ih =>
    rw [IsPlain, List.forall_mem_cons] at hf
    rw [List.cons_append, read_cons_of_not_isSign hq hc hf.1, ih (p := .bare) nofun nofun hf.2,
      Option.map_map]
    rfl

/-- A line of plain fields is read as its record. -/
theorem read_line_append {r : Record} (hr : r ≠ []) (hplain : ∀ f ∈ r, IsPlain f)
    (s : List Char) : read p (line r ++ '\n' :: s) = (read .record s).map (r :: ·) := by
  induction r generalizing p with
  | nil => exact absurd rfl hr
  | cons f r ih =>
    rw [List.forall_mem_cons] at hplain
    cases r with
    | nil =>
      rw [line_singleton]
      exact read_append_feed hq hc hplain.1 s
    | cons g r =>
      rw [line_cons_cons, List.append_assoc, List.cons_append, read_append_comma hq hc hplain.1,
        ih (p := .field) nofun nofun (by simp) hplain.2, Option.map_map]
      rfl

end Plain

/-- Commas and line feeds add no quotes. -/
theorem count_quote_endLines (rs : List Record) :
    (Text.endLines (rs.map line)).count '"' = (characters rs).count '"' := by
  have hline : ∀ r : Record, (line r).count '"' = r.flatten.count '"' := by
    intro r
    induction r with
    | nil => rfl
    | cons f r ih =>
      cases r with
      | nil => simp
      | cons g r =>
        rw [line_cons_cons, List.count_append, List.count_cons_of_ne (by decide), ih,
          List.flatten_cons (l := f), List.count_append]
  induction rs with
  | nil => rfl
  | cons r rs ih =>
    rw [List.map_cons, Text.endLines, List.flatMap_cons, ← Text.endLines, List.count_append,
      List.count_append, hline, ih, characters_cons, List.count_append]
    rfl

/-- **Lines of fields are read back as their records if and only if no field has a character that
means something else.** -/
theorem read_endLines_iff {rs : List Record} (hrs : ∀ r ∈ rs, r ≠ []) :
    read .record (Text.endLines (rs.map line)) = some rs ↔ ∀ r ∈ rs, ∀ f ∈ r, IsPlain f := by
  constructor
  · intro h
    -- the text has as many quotes as its fields, which is too few unless there are none
    have hle := two_mul_count_quote_le h
    have hcount := count_quote_endLines rs
    have hs : '"' ∉ Text.endLines (rs.map line) := List.count_eq_zero.1 (by omega)
    have hplain : IsPlain (characters rs) := isPlain_of_read (by decide) hs h
    intro r hr f hf c hc
    exact hplain c (List.mem_flatten.2 ⟨f, List.mem_flatten.2 ⟨r, hr, hf⟩, hc⟩)
  · intro h
    induction rs with
    | nil => rfl
    | cons r rs ih =>
      rw [List.forall_mem_cons] at h hrs
      rw [List.map_cons, Text.endLines, List.flatMap_cons, ← Text.endLines, List.append_assoc,
        List.singleton_append, read_line_append (by decide) (by decide) hrs.1 h.1,
        ih hrs.2 h.2, Option.map_some]

end GameFixes.Csv
