import GameFixes.Proofs.Operation

/-!
# Reading and writing operations

Operations are written as canonical texts, and texts are read as operations. Writing what was read
gives the trimmed text; reading what was written gives the operation only if it has one of the forms
that a text can have.

* `parse_cases`: what a text is read as, by the form that it has after trimming;
* `text_parse`, `parse_text_parse`: what was read is written as the text, and read again;
* `ReadsBack`: the operations that their texts are read as;
* `text_parse_and_parse_text_iff`: so reading and writing undo each other exactly where they can.
-/

namespace GameFixes.Operation

/-! ### Texts that are read -/

/-- A text is read by its form after trimming: an identifier and a label, a call, or neither. -/
theorem parse_cases (s : String) :
    (∃ name value, isIdentifier name.toList = true ∧ trimmed s = name ++ ": " ++ value ∧
      parse s = labelled name value) ∨
    (∃ name raw, isIdentifier name.toList = true ∧ trimmed s = name ++ "(" ++ raw ++ ")" ∧
      parse s = call name raw) ∨
    ((∀ name value, isIdentifier name.toList = true → trimmed s ≠ name ++ ": " ++ value) ∧
      (∀ name raw, isIdentifier name.toList = true → trimmed s ≠ name ++ "(" ++ raw ++ ")") ∧
      parse s = bare (trimmed s)) := by
  cases hl : parseLabelled? (Text.trim s.toList) with
  | some o =>
    obtain ⟨name, value, hname, hs, rfl⟩ := parseLabelled?_eq_some_iff.1 hl
    refine .inl ⟨String.ofList name, String.ofList value, by simpa using hname, ?_, ?_⟩
    · exact String.toList_inj.1 (by simp [hs])
    · rw [parse, hl]
      rfl
  | none =>
    cases hc : parseCall? (Text.trim s.toList) with
    | some o =>
      obtain ⟨name, raw, hname, hs, rfl⟩ := parseCall?_eq_some_iff.1 hc
      refine .inr (.inl ⟨String.ofList name, String.ofList raw, by simpa using hname, ?_, ?_⟩)
      · exact String.toList_inj.1 (by simp [hs])
      · rw [parse, hl, hc]
        rfl
    | none =>
      refine .inr (.inr ⟨fun name value hname hs => ?_, fun name raw hname hs => ?_, ?_⟩)
      · have hsome : parseLabelled? (Text.trim s.toList) = some (labelled name value) :=
          parseLabelled?_eq_some_iff.2
            ⟨name.toList, value.toList, hname, by simp [← toList_trimmed, hs], by simp⟩
        rw [hl] at hsome
        cases hsome
      · have hsome : parseCall? (Text.trim s.toList) = some (call name raw) :=
          parseCall?_eq_some_iff.2
            ⟨name.toList, raw.toList, hname, by simp [← toList_trimmed, hs], by simp⟩
        rw [hc] at hsome
        cases hsome
      · rw [parse, hl, hc]
        rfl

/-- What was read is written as the trimmed text. -/
theorem text_parse (s : String) : (parse s).text = trimmed s := by
  rcases parse_cases s with ⟨name, value, -, hs, hp⟩ | ⟨name, raw, -, hs, hp⟩ | ⟨-, -, hp⟩
  · rw [hp, hs, text_labelled]
  · rw [hp, hs, text_call]
  · rw [hp, text_bare]

/-- Blanks around a text have no influence on what it is read as. -/
theorem parse_trimmed (s : String) : parse (trimmed s) = parse s := by
  unfold parse
  rw [toList_trimmed, Text.trim_trim]

/-- What was read is read again from what it is written as. -/
theorem parse_text_parse (s : String) : parse (parse s).text = parse s := by
  rw [text_parse, parse_trimmed]

/-! ### Operations that are read back -/

/-- The operations that have the form of a text: a value behind an identifier that ends the text
with a character that is no blank, any argument text of a call, or a name that stands for itself. -/
inductive ReadsBack : Operation → Prop
  | labelled {name value : String} (hname : isIdentifier name.toList = true) (hvalue : value ≠ "")
      (hend : ∀ c ∈ value.toList.getLast?, Text.isBlank c = false) :
      ReadsBack (labelled name value)
  | call {name : String} (hname : isIdentifier name.toList = true) (raw : String) :
      ReadsBack (call name raw)
  | bare {name : String} (hstart : ∀ c ∈ name.toList.head?, Text.isBlank c = false)
      (hend : ∀ c ∈ name.toList.getLast?, Text.isBlank c = false)
      (hlabelled : ∀ word value : String, isIdentifier word.toList = true →
        name ≠ word ++ ": " ++ value)
      (hcall : ∀ word raw : String, isIdentifier word.toList = true →
        name ≠ word ++ "(" ++ raw ++ ")") :
      ReadsBack (bare name)

/-- A labelled text that trimming leaves as it is has a value, and no blank at the end of it. -/
theorem edges_of_trimmed_labelled {name value : String}
    (h : trimmed (name ++ ": " ++ value) = name ++ ": " ++ value) :
    value ≠ "" ∧ ∀ c ∈ value.toList.getLast?, Text.isBlank c = false := by
  have hend := (trimmed_eq_self_iff.1 h).2
  have hvalue : value ≠ "" := by
    rintro rfl
    exact absurd (hend ' ' (by simp)) (by decide)
  refine ⟨hvalue, fun c hc => hend c ?_⟩
  rw [String.toList_append, List.getLast?_append, Option.mem_def.1 hc]
  rfl

theorem ReadsBack.parse_text {o : Operation} (h : ReadsBack o) : parse o.text = o := by
  cases h with
  | @labelled name value hname hvalue hend =>
    have htrim : Text.trimEnd value.toList = value.toList := Text.trimEnd_eq_self_iff.2 hend
    rw [parse_labelled hname (by simpa [htrim] using hvalue), trimmedEnd, htrim,
      String.ofList_toList]
  | call hname raw => exact parse_call hname raw
  | @bare name hstart hend hlabelled hcall =>
    have htrim : trimmed name = name := trimmed_eq_self_iff.2 ⟨hstart, hend⟩
    rw [text_bare]
    rcases parse_cases name with ⟨word, value, hword, hs, -⟩ | ⟨word, raw, hword, hs, -⟩ | ⟨-, -, hp⟩
    · exact absurd (htrim.symm.trans hs) (hlabelled word value hword)
    · exact absurd (htrim.symm.trans hs) (hcall word raw hword)
    · rw [hp, htrim]

/-- An operation is what its text is read as exactly if it has the form of a text. -/
theorem parse_text_eq_self_iff {o : Operation} : parse o.text = o ↔ ReadsBack o := by
  refine ⟨fun h => ?_, ReadsBack.parse_text⟩
  have htrim : trimmed o.text = o.text := by rw [← text_parse, h]
  rcases parse_cases o.text with ⟨name, value, hname, hs, hp⟩ | ⟨name, raw, hname, -, hp⟩ |
    ⟨hlabelled, hcall, hp⟩
  · rw [htrim] at hs
    rw [hs] at htrim
    obtain ⟨hvalue, hend⟩ := edges_of_trimmed_labelled htrim
    rw [← h, hp]
    exact .labelled hname hvalue hend
  · rw [← h, hp]
    exact .call hname raw
  · obtain ⟨hstart, hend⟩ := trimmed_eq_self_iff.1 htrim
    rw [htrim] at hlabelled hcall hp
    rw [← h, hp]
    exact .bare hstart hend hlabelled hcall

/-- **Reading and writing undo each other exactly where they can.** What is read of a text is
written as the trimmed text, and read from it again; and the operations that are read back from what
they are written as are those with the form of a text. -/
theorem text_parse_and_parse_text_iff :
    (∀ s, (parse s).text = trimmed s ∧ parse (parse s).text = parse s) ∧
      ∀ o, parse o.text = o ↔ ReadsBack o :=
  ⟨fun s => ⟨text_parse s, parse_text_parse s⟩, fun _ => parse_text_eq_self_iff⟩

/-- A value may look like a call, hold another label and begin with blanks. -/
example : parse "name:   f(x): y" = labelled "name" "  f(x): y" := by decide +kernel

end GameFixes.Operation
