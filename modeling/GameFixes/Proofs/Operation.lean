import GameFixes.Operation
import GameFixes.Proofs.Text

/-!
# Canonical texts

What the canonical text of an operation says, and what it is read back as:

* `ending`, `name_eq_and_ending_eq`: a text that starts with an identifier is cut behind it in one
  way only;
* `parseLabelled?_eq_some_iff`, `parseCall?_eq_some_iff`: the two shapes that a text can have, said
  without the places where it is cut;
* `reparsed_eq_withoutEnd`: an operation with an identifier as its name is read back without the
  blanks at the end of its value;
* `reparsed_of_blankValue`: a value that is blank is not read back at all, and its colon becomes
  part of the name.
-/

namespace GameFixes

/-! ### Identifiers -/

/-- Identifier characters lie between the digit zero and the small letter z. -/
theorem bounds_of_isIdentifierChar {c : Char} (h : isIdentifierChar c = true) :
    '0'.toNat ≤ c.toNat ∧ c.toNat ≤ 'z'.toNat := by
  rw [isIdentifierChar, Bool.or_eq_true, beq_iff_eq] at h
  rcases h with h | rfl
  · change (decide (c.val ≥ _ ∧ c.val ≤ _) || (c.val ≥ _ && c.val ≤ _) ||
      (c.val ≥ _ && c.val ≤ _)) = true at h
    simp only [Bool.or_eq_true, Bool.and_eq_true, decide_eq_true_eq, ge_iff_le,
      UInt32.le_iff_toNat_le] at h
    rcases h with (⟨hl, hr⟩ | ⟨hl, hr⟩) | ⟨hl, hr⟩
    · exact ⟨le_trans (by decide) hl, le_trans hr (by decide)⟩
    · exact ⟨le_trans (by decide) hl, hr⟩
    · exact ⟨hl, le_trans hr (by decide)⟩
  · decide

theorem isIdentifierChar_of_isBlank {c : Char} (h : Text.isBlank c = true) :
    isIdentifierChar c = false := by
  rw [← Bool.not_eq_true]
  intro hi
  obtain ⟨hl, hr⟩ := bounds_of_isIdentifierChar hi
  rw [show '0'.toNat = 48 from rfl] at hl
  rw [show 'z'.toNat = 122 from rfl] at hr
  simp only [Text.isBlank, Bool.or_eq_true, Bool.and_eq_true, decide_eq_true_eq, beq_iff_eq] at h
  omega

theorem isBlank_of_isIdentifierChar {c : Char} (h : isIdentifierChar c = true) :
    Text.isBlank c = false := by
  rw [← Bool.not_eq_true]
  intro hb
  rw [isIdentifierChar_of_isBlank hb] at h
  exact Bool.false_ne_true h

theorem isIdentifier_iff {s : List Char} :
    isIdentifier s = true ↔ s ≠ [] ∧ ∀ c ∈ s, isIdentifierChar c = true := by
  simp [isIdentifier]

theorem not_mem_of_isIdentifier {s : List Char} (h : isIdentifier s = true) {c : Char}
    (hc : isIdentifierChar c = false) : c ∉ s := by
  intro hm
  rw [(isIdentifier_iff.1 h).2 c hm] at hc
  cases hc

/-- The word that starts a text is an identifier that ends where it is said to end. -/
theorem takeWhile_isIdentifier_append {a s : List Char} (ha : isIdentifier a = true)
    (hs : ∀ c t, s = c :: t → isIdentifierChar c = false) :
    (a ++ s).takeWhile isIdentifierChar = a := by
  rw [List.takeWhile_append_of_pos (isIdentifier_iff.1 ha).2]
  cases s with
  | nil => simp
  | cons c t => rw [List.takeWhile_cons_of_neg (by simp [hs c t rfl]), List.append_nil]

/-- An identifier at the start of a text ends at the first character that is none of its own. -/
theorem isIdentifier_append_inj {a b s t : List Char} {c d : Char} (ha : isIdentifier a = true)
    (hb : isIdentifier b = true) (hc : isIdentifierChar c = false)
    (hd : isIdentifierChar d = false) (h : a ++ c :: s = b ++ d :: t) :
    a = b ∧ c = d ∧ s = t := by
  have hstop : ∀ {c : Char} {s : List Char}, isIdentifierChar c = false →
      ∀ x u, c :: s = x :: u → isIdentifierChar x = false := by
    rintro c s hc x u hx
    rwa [← (List.cons.inj hx).1]
  obtain rfl : a = b := by
    rw [← takeWhile_isIdentifier_append ha (hstop hc), h,
      takeWhile_isIdentifier_append hb (hstop hd)]
  exact ⟨rfl, List.cons.inj (List.append_cancel_left h)⟩

/-- Trimming a text that an identifier starts leaves the identifier. -/
theorem trim_isIdentifier_append {name : List Char} (h : isIdentifier name = true)
    (s : List Char) : Text.trim (name ++ s) = name ++ Text.trimEnd s := by
  obtain ⟨hne, hall⟩ := isIdentifier_iff.1 h
  have hstart : Text.trimStart (name ++ s) = name ++ s := by
    obtain ⟨c, t, rfl⟩ := List.exists_cons_of_ne_nil hne
    exact Text.trimStart_cons_of_not_blank
      (isBlank_of_isIdentifierChar (hall c List.mem_cons_self)) (t ++ s)
  rw [Text.trim, hstart, ← List.dropLast_append_getLast hne, List.append_assoc,
    List.singleton_append, Text.trimEnd_append_cons
      (isBlank_of_isIdentifierChar (hall _ (List.getLast_mem hne))), List.append_assoc,
    List.singleton_append]

namespace Operation

/-! ### Names in texts -/

/-- What follows the name of an operation in its text. -/
def ending (o : Operation) : List Char :=
  match o.argument with
  | none => []
  | some (.labelled value) => ':' :: ' ' :: value.toList
  | some (.call raw) => '(' :: (raw.toList ++ [')'])

section Ending

variable {o : Operation}

theorem toList_text (o : Operation) : o.text.toList = o.name.toList ++ o.ending := by
  rcases o with ⟨name, _ | value | raw⟩
  · exact (List.append_nil _).symm
  · simp [text, ending]
  · simp [text, ending]

/-- An ending cannot be taken for a part of the name. -/
theorem isIdentifierChar_of_ending {c : Char} {t : List Char} (h : o.ending = c :: t) :
    isIdentifierChar c = false := by
  rcases o with ⟨name, _ | value | raw⟩
  · cases h
  · rw [← (List.cons.inj h).1]
    decide
  · rw [← (List.cons.inj h).1]
    decide

/-- The identifier that starts the text of an operation is its name. -/
theorem name_eq_and_ending_eq {a s : List Char} (ho : isIdentifier o.name.toList = true)
    (ha : isIdentifier a = true) (hs : ∀ c t, s = c :: t → isIdentifierChar c = false)
    (h : o.text.toList = a ++ s) : o.name.toList = a ∧ o.ending = s := by
  have hname : o.name.toList = a := by
    rw [← takeWhile_isIdentifier_append ho fun _ _ => isIdentifierChar_of_ending, ← toList_text, h,
      takeWhile_isIdentifier_append ha hs]
  rw [toList_text, hname] at h
  exact ⟨hname, List.append_cancel_left h⟩

end Ending

/-! ### Reading a text -/

/-- A labelled text is an identifier, a colon with a blank, and any text. -/
theorem parseLabelled?_eq_some_iff {s : List Char} {o : Operation} :
    parseLabelled? s = some o ↔ ∃ name value, isIdentifier name = true ∧
      s = name ++ ':' :: ' ' :: value ∧
      o = labelled (String.ofList name) (String.ofList value) := by
  unfold parseLabelled?
  simp only [Option.bind_eq_bind, Option.bind_eq_some_iff, Prod.exists,
    Option.ite_none_right_eq_some, Option.some.injEq]
  constructor
  · rintro ⟨name, value, hs, hname, rfl⟩
    refine ⟨name, value, hname, ?_, rfl⟩
    simpa using Text.eq_of_splitFirst?_eq_some hs
  · rintro ⟨name, value, hname, rfl, rfl⟩
    have hcolon : ':' ∉ name := not_mem_of_isIdentifier hname (by decide)
    exact ⟨name, value, Text.splitFirst?_append_cons hcolon [' '] value, hname, rfl⟩

/-- A text with the form of a call is an identifier and any text in parentheses. -/
theorem parseCall?_eq_some_iff {s : List Char} {o : Operation} :
    parseCall? s = some o ↔ ∃ name raw, isIdentifier name = true ∧
      s = name ++ '(' :: (raw ++ [')']) ∧ o = call (String.ofList name) (String.ofList raw) := by
  unfold parseCall?
  simp only [Option.bind_eq_bind, Option.bind_eq_some_iff, Prod.exists,
    Option.ite_none_right_eq_some, Option.some.injEq]
  constructor
  · rintro ⟨name, rest, hs, raw, hr, hname, rfl⟩
    refine ⟨name, raw, hname, ?_, rfl⟩
    rw [Text.eq_of_splitFirst?_eq_some hs, Text.eq_of_dropLast?_eq_some hr]
    simp
  · rintro ⟨name, raw, hname, rfl, rfl⟩
    have hopen : '(' ∉ name := not_mem_of_isIdentifier hname (by decide)
    exact ⟨name, raw ++ [')'], Text.splitFirst?_append_cons hopen [] _, raw,
      Text.dropLast?_concat ')' raw, hname, rfl⟩

/-- A text of neither shape is a name. -/
theorem parse_eq_bare {s : String}
    (hl : ∀ name value, isIdentifier name = true →
      Text.trim s.toList ≠ name ++ ':' :: ' ' :: value)
    (hc : ∀ name raw, isIdentifier name = true →
      Text.trim s.toList ≠ name ++ '(' :: (raw ++ [')'])) : parse s = bare (trimmed s) := by
  have hlabelled : parseLabelled? (Text.trim s.toList) = none := by
    rw [Option.eq_none_iff_forall_ne_some]
    intro o ho
    obtain ⟨name, value, hname, hs, -⟩ := parseLabelled?_eq_some_iff.1 ho
    exact hl name value hname hs
  have hcall : parseCall? (Text.trim s.toList) = none := by
    rw [Option.eq_none_iff_forall_ne_some]
    intro o ho
    obtain ⟨name, raw, hname, hs, -⟩ := parseCall?_eq_some_iff.1 ho
    exact hc name raw hname hs
  rw [parse, hlabelled, hcall]
  rfl

variable {name : String}

theorem parse_bare (h : isIdentifier name.toList = true) : parse (bare name).text = bare name := by
  have htrim : Text.trim name.toList = name.toList := by
    simpa using trim_isIdentifier_append h []
  have hname : ∀ (c : Char) (a s : List Char), isIdentifierChar c = false →
      Text.trim name.toList ≠ a ++ c :: s := by
    intro c a s hc he
    rw [htrim] at he
    exact not_mem_of_isIdentifier h hc (by simp [he])
  rw [text_bare, parse_eq_bare (fun a v _ => hname ':' a _ (by decide))
    (fun a r _ => hname '(' a _ (by decide)), trimmed, htrim, String.ofList_toList]

theorem parse_labelled (h : isIdentifier name.toList = true) {value : String}
    (hv : Text.trimEnd value.toList ≠ []) :
    parse (labelled name value).text = labelled name (trimmedEnd value) := by
  have htrim : Text.trim (labelled name value).text.toList =
      name.toList ++ ':' :: ' ' :: Text.trimEnd value.toList := by
    rw [text_labelled, String.toList_append, String.toList_append, List.append_assoc,
      trim_isIdentifier_append h, Text.trimEnd_append_of_ne_nil hv]
    rfl
  rw [parse, htrim, parseLabelled?_eq_some_iff.2 ⟨_, _, h, rfl, rfl⟩, String.ofList_toList]
  rfl

/-- Nothing but the name and the colon is left of a label without a value. -/
theorem parse_labelled_of_blank (h : isIdentifier name.toList = true) {value : String}
    (hv : ∀ c ∈ value.toList, Text.isBlank c = true) :
    parse (labelled name value).text = bare (name ++ ":") := by
  have htrim : Text.trim (labelled name value).text.toList = name.toList ++ [':'] := by
    have hblank : ∀ c ∈ ' ' :: value.toList, Text.isBlank c = true :=
      List.forall_mem_cons.2 ⟨rfl, hv⟩
    rw [text_labelled, String.toList_append, String.toList_append, List.append_assoc,
      trim_isIdentifier_append h]
    congr 1
    exact (Text.trimEnd_append_of_blank hblank [':']).trans rfl
  have hname : String.ofList (name.toList ++ [':']) = name ++ ":" := String.toList_inj.1 (by simp)
  rw [parse_eq_bare, trimmed, htrim, hname]
  · intro a v ha he
    rw [htrim] at he
    have hrest := (isIdentifier_append_inj h ha (by decide) (by decide) he).2.2
    cases hrest
  · intro a r ha he
    rw [htrim] at he
    have hmark := (isIdentifier_append_inj h ha (by decide) (by decide) he).2.1
    cases hmark

theorem parse_call (h : isIdentifier name.toList = true) (raw : String) :
    parse (call name raw).text = call name raw := by
  have htrim : Text.trim (call name raw).text.toList =
      name.toList ++ '(' :: (raw.toList ++ [')']) := by
    have hend : Text.trimEnd ('(' :: raw.toList ++ [')']) = '(' :: raw.toList ++ [')'] :=
      Text.trimEnd_concat_of_not_blank (by decide) _
    rw [text_call, String.toList_append, String.toList_append, String.toList_append,
      List.append_assoc, List.append_assoc, trim_isIdentifier_append h]
    congr 1
  have hlabelled : parseLabelled? (name.toList ++ '(' :: (raw.toList ++ [')'])) = none := by
    rw [Option.eq_none_iff_forall_ne_some]
    intro o ho
    obtain ⟨a, v, ha, he, -⟩ := parseLabelled?_eq_some_iff.1 ho
    have hmark := (isIdentifier_append_inj h ha (by decide) (by decide) he).2.1
    cases hmark
  rw [parse, htrim, hlabelled, parseCall?_eq_some_iff.2 ⟨_, _, h, rfl, rfl⟩,
    String.ofList_toList, String.ofList_toList]
  rfl

/-! ### Reading an operation back -/

/-- The operation that the canonical text of an operation is read back as. -/
def reparsed (o : Operation) : Operation := parse o.text

/-- The argument of an operation is a value of blanks only. -/
def BlankValue (o : Operation) : Prop :=
  ∃ v, o.argument = some (.labelled v) ∧ ∀ c ∈ v.toList, Text.isBlank c = true

/-- An operation without the blanks at the end of its value. -/
def withoutEnd (o : Operation) : Operation :=
  match o.argument with
  | some (.labelled v) => labelled o.name (trimmedEnd v)
  | _ => o

@[simp] theorem name_withoutEnd (o : Operation) : o.withoutEnd.name = o.name := by
  rcases o with ⟨name, _ | v | raw⟩ <;> rfl

/-- An operation is read back without the blanks at the end of its value. -/
theorem reparsed_eq_withoutEnd {o : Operation} (h : isIdentifier o.name.toList = true)
    (hv : ¬ BlankValue o) : o.reparsed = o.withoutEnd := by
  rcases o with ⟨name, _ | v | raw⟩
  · exact parse_bare h
  · exact parse_labelled h fun hnil => hv ⟨v, rfl, Text.trimEnd_eq_nil_iff.1 hnil⟩
  · exact parse_call h raw

/-- A blank value is lost, and the colon before it becomes part of the name. -/
theorem reparsed_of_blankValue {o : Operation} (h : isIdentifier o.name.toList = true)
    (hv : BlankValue o) : o.reparsed = bare (o.name ++ ":") := by
  obtain ⟨name, argument⟩ := o
  obtain ⟨v, rfl, hv⟩ := hv
  exact parse_labelled_of_blank h hv

end Operation

end GameFixes
