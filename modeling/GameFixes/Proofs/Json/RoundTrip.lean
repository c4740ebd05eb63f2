import GameFixes.Json.Reader
import GameFixes.Json.Writer
import Mathlib.Data.List.DropRight

/-!
# Reading what was written

The JSON text of an outline, read again, is the value that says what the outline says.

* `readString_escape`: a written string, with any text after its closing quote;
* `readValue_pretty`, `readItems_pretty`, `readMembers_pretty`: a written outline, and the items and
  members after an opening bracket, with any text after the closing one;
* `read?_render`: a whole text.

The reader's fuel counts its calls. Between two of them it passes over a character at least, so
twice the length of what is written is enough.
-/

namespace GameFixes.Json

/-! ### Strings -/

theorem hex4?_control :
    ∀ n < 32, hex4? '0' '0' (hexDigit (n / 16)) (hexDigit (n % 16)) = some n := by
  decide

theorem unitText_control {n : Nat} (h : n < 0x20) :
    unitText none n = (some [Char.ofNat n], none) := by
  rw [unitText, if_neg (by omega), if_neg (by omega)]
  rfl

theorem readString_plain {c : Char} (hq : c ≠ '"') (hs : c ≠ '\\') (hc : 0x20 ≤ c.toNat)
    (t : List Char) :
    readString none (c :: t) = (readString none t).map (StringRest.push (some [c])) := by
  have hkeep : ¬ (c.toNat < 0x20 ∨ c = '\\') := not_or.2 ⟨Nat.not_lt.2 hc, hs⟩
  rw [readString.eq_5 _ _ _ hq (fun _ _ _ _ _ h => (hs h).elim) fun _ _ h => (hs h).elim,
    if_neg hkeep]
  rfl

theorem readString_escaped (c : Char) {e : Char} (he : unescape? c = some e) (t : List Char) :
    readString none ('\\' :: c :: t) = (readString none t).map (StringRest.push (some [e])) := by
  have hc : c ≠ 'u' := by
    rintro rfl
    cases he
  rw [readString.eq_4 _ _ _ fun a b d x s h => (hc h).elim, he]
  rfl

/-- A written character is read as this character. -/
theorem readString_escapeChar (c : Char) (t : List Char) :
    readString none (escapeChar c ++ t) = (readString none t).map (StringRest.push (some [c])) := by
  unfold escapeChar
  split_ifs with h1 h2 h3 h4 h5 h6 h7 h8
  · exact h1 ▸ readString_escaped '"' rfl t
  · exact h2 ▸ readString_escaped '\\' rfl t
  · exact h3 ▸ readString_escaped 'n' rfl t
  · exact h4 ▸ readString_escaped 'r' rfl t
  · exact h5 ▸ readString_escaped 't' rfl t
  · exact h6 ▸ readString_escaped 'b' rfl t
  · exact h7 ▸ readString_escaped 'f' rfl t
  · simp only [List.cons_append, List.nil_append, readString, hex4?_control _ h8,
      unitText_control h8, Char.ofNat_toNat]
  · exact readString_plain h1 h2 (by omega) t

/-- A written string is read as its text. -/
theorem readString_escape (s t : List Char) :
    readString none (s.flatMap escapeChar ++ '"' :: t) = some (some s, t) := by
  induction s with
  | nil => rfl
  | cons c s ih =>
    rw [List.flatMap_cons, List.append_assoc, readString_escapeChar, ih]
    rfl

theorem readText?_quote (s : String) (t : List Char) :
    readText? (quote s.toList ++ t) = some (some s, t) := by
  rw [quote, List.cons_append, List.append_assoc, readText?, List.singleton_append,
    readString_escape]
  simp

/-! ### Space between tokens -/

theorem skipSpace_newline (level : Nat) (s : List Char) :
    skipSpace (newline level ++ s) = skipSpace s := by
  refine List.dropWhile_append_of_pos fun c hc => ?_
  rcases List.mem_cons.1 hc with rfl | hc
  · rfl
  · rw [List.eq_of_mem_replicate hc]
    rfl

theorem skipSpace_cons {c : Char} (h : isSpace c = false) (s : List Char) :
    skipSpace (c :: s) = c :: s :=
  List.dropWhile_cons_of_neg (by simp [h])

theorem skipSpace_blank (s : List Char) : skipSpace (' ' :: s) = skipSpace s := rfl

theorem skipSpace_quote (s t : List Char) : skipSpace (quote s ++ t) = quote s ++ t :=
  skipSpace_cons rfl _

theorem skipSpace_skipSpace (s : List Char) : skipSpace (skipSpace s) = skipSpace s :=
  List.dropWhile_idempotent isSpace s

theorem length_newline (level : Nat) : (newline level).length = 2 * level + 1 := by simp [newline]

section Congr

variable {fuel : Nat} {s t : List Char}

theorem readValue_congr (h : skipSpace s = skipSpace t) : readValue fuel s = readValue fuel t := by
  cases fuel with
  | zero => rfl
  | succ fuel => rw [readValue, readValue, h]

theorem readItems_congr (h : skipSpace s = skipSpace t) : readItems fuel s = readItems fuel t := by
  cases fuel with
  | zero => rfl
  | succ fuel => rw [readItems, readItems, readValue_congr h]

theorem readMembers_congr (h : skipSpace s = skipSpace t) :
    readMembers fuel s = readMembers fuel t := by
  cases fuel with
  | zero => rfl
  | succ fuel => rw [readMembers, readMembers, h]

end Congr

/-! ### Values -/

/-- A written outline begins with a character that is no space and closes no array. -/
theorem exists_pretty_eq_cons (level : Nat) (o : Outline) :
    ∃ c t, pretty level o = c :: t ∧ isSpace c = false ∧ c ≠ ']' := by
  cases o with
  | flag b => cases b <;> exact ⟨_, _, rfl, rfl, by decide⟩
  | text s => exact ⟨_, _, rfl, rfl, by decide⟩
  | items l => cases l <;> exact ⟨_, _, rfl, rfl, by decide⟩
  | fields l => cases l <;> exact ⟨_, _, rfl, rfl, by decide⟩

theorem skipSpace_pretty (level : Nat) (o : Outline) (t : List Char) :
    skipSpace (pretty level o ++ t) = pretty level o ++ t := by
  obtain ⟨c, r, hr, hc, -⟩ := exists_pretty_eq_cons level o
  rw [hr, List.cons_append, skipSpace_cons hc]

section Brackets

variable {fuel : Nat} {s r t : List Char} {v : Value}

theorem readValue_array {l : List Value} (hs : ∀ r, skipSpace s ≠ ']' :: r)
    (h : readItems fuel s = (l, some t)) :
    readValue (fuel + 1) ('[' :: s) = some (.array l, t) := by
  rw [← readItems_congr (skipSpace_skipSpace s)] at h
  rw [readValue, skipSpace_cons rfl]
  simp [h]

theorem readValue_object {l : List (Option String × Value)} (hs : ∀ r, skipSpace s ≠ '}' :: r)
    (h : readMembers fuel s = some (l, t)) :
    readValue (fuel + 1) ('{' :: s) = some (.object l, t) := by
  rw [← readMembers_congr (skipSpace_skipSpace s)] at h
  rw [readValue, skipSpace_cons rfl]
  simp [h]

theorem readItems_last (hv : readValue fuel s = some (v, r)) (hr : skipSpace r = ']' :: t) :
    readItems (fuel + 1) s = ([v], some t) := by
  rw [readItems, hv]
  simp [hr]

theorem readItems_more (hv : readValue fuel s = some (v, ',' :: r)) :
    readItems (fuel + 1) s = (v :: (readItems fuel r).1, (readItems fuel r).2) := by
  rw [readItems, hv]
  simp [skipSpace_cons (c := ',') rfl]

theorem readMembers_last (k : String) (hv : readValue fuel s = some (v, r))
    (hr : skipSpace r = '}' :: t) :
    readMembers (fuel + 1) (quote k.toList ++ ':' :: ' ' :: s) = some ([(some k, v)], t) := by
  rw [readMembers, skipSpace_quote, readText?_quote]
  simp [skipSpace_cons (c := ':') rfl, readValue_congr (skipSpace_blank s), hv, hr]

theorem readMembers_more (k : String) (hv : readValue fuel s = some (v, ',' :: r)) :
    readMembers (fuel + 1) (quote k.toList ++ ':' :: ' ' :: s) =
      (readMembers fuel r).map fun p => ((some k, v) :: p.1, p.2) := by
  rw [readMembers, skipSpace_quote, readText?_quote]
  simp [skipSpace_cons (c := ':') rfl, readValue_congr (skipSpace_blank s),
    skipSpace_cons (c := ',') rfl, hv]

end Brackets

mutual

/-- A written outline is read as what it says, whatever follows it. -/
theorem readValue_pretty : ∀ (o : Outline) (level fuel : Nat) (t : List Char),
    2 * (pretty level o).length ≤ fuel →
      readValue fuel (pretty level o ++ t) = some (Value.ofOutline o, t)
  | .flag true, _, _ + 1, _, _ | .flag false, _, _ + 1, _, _ => rfl
  | .items [], _, _ + 1, _, _ | .fields [], _, _ + 1, _, _ => rfl
  | .text s, _, _ + 1, t, _ => by
    have hs := readText?_quote s t
    rw [quote, List.cons_append] at hs
    rw [pretty, quote, List.cons_append, readValue, skipSpace_cons rfl]
    simp only [hs, Option.map_some, Value.ofOutline]
  | .items (o :: l), level, fuel + 1, t, h => by
    simp only [pretty, List.length_cons, List.length_append, length_newline] at h
    have hl := readItems_pretty o l level fuel t (by omega)
    rw [pretty, List.cons_append, List.append_assoc, List.append_assoc, Value.ofOutline]
    refine readValue_array (fun r hr => ?_) (by rw [readItems_congr (skipSpace_newline _ _), hl])
    obtain ⟨c, s, hs, -, hc⟩ := exists_pretty_eq_cons (level + 1) o
    rw [skipSpace_newline, skipSpace_pretty, hs] at hr
    exact hc (List.cons.inj hr).1
  | .fields ((k, o) :: l), level, fuel + 1, t, h => by
    simp only [pretty, List.length_cons, List.length_append, length_newline] at h
    have hl := readMembers_pretty k o l level fuel t (by omega)
    rw [pretty, List.cons_append]
    simp only [List.append_assoc, List.cons_append, List.nil_append, Value.ofOutline]
    refine readValue_object (fun r hr => ?_) (by rw [readMembers_congr (skipSpace_newline _ _), hl])
    rw [skipSpace_newline, skipSpace_quote] at hr
    exact absurd (List.cons.inj hr).1 (by decide)

theorem readItems_pretty : ∀ (o : Outline) (l : List Outline) (level fuel : Nat) (t : List Char),
    2 * ((pretty (level + 1) o).length + (prettyItems level l).length) ≤ fuel →
      readItems fuel (pretty (level + 1) o ++ (prettyItems level l ++ t)) =
        (Value.ofOutlines (o :: l), some t)
  | o, [], level, fuel + 1, t, h => by
    simp only [prettyItems, List.length_append, length_newline, List.length_singleton] at h
    have hv := readValue_pretty o (level + 1) fuel (prettyItems level [] ++ t) (by omega)
    refine readItems_last hv ?_
    rw [prettyItems, List.append_assoc, skipSpace_newline]
    rfl
  | o, o' :: l, level, fuel + 1, t, h => by
    simp only [prettyItems, List.length_cons, List.length_append, length_newline] at h
    have hv := readValue_pretty o (level + 1) fuel (prettyItems level (o' :: l) ++ t) (by omega)
    have hl := readItems_pretty o' l level fuel t (by omega)
    rw [prettyItems, List.cons_append] at hv ⊢
    rw [readItems_more hv, List.append_assoc, List.append_assoc,
      readItems_congr (skipSpace_newline _ _), hl]
    rfl

theorem readMembers_pretty : ∀ (k : String) (o : Outline) (l : List (String × Outline))
    (level fuel : Nat) (t : List Char),
    2 * ((pretty (level + 1) o).length + (prettyFields level l).length) ≤ fuel →
      readMembers fuel (quote k.toList ++
          ':' :: ' ' :: (pretty (level + 1) o ++ (prettyFields level l ++ t))) =
        some (Value.ofFields ((k, o) :: l), t)
  | k, o, [], level, fuel + 1, t, h => by
    simp only [prettyFields, List.length_append, length_newline, List.length_singleton] at h
    have hv := readValue_pretty o (level + 1) fuel (prettyFields level [] ++ t) (by omega)
    refine readMembers_last k hv ?_
    rw [prettyFields, List.append_assoc, skipSpace_newline]
    rfl
  | k, o, (k', o') :: l, level, fuel + 1, t, h => by
    simp only [prettyFields, List.length_cons, List.length_append, length_newline] at h
    have hv := readValue_pretty o (level + 1) fuel (prettyFields level ((k', o') :: l) ++ t)
      (by omega)
    have hl := readMembers_pretty k' o' l level fuel t (by omega)
    rw [prettyFields, List.cons_append] at hv ⊢
    simp only [List.append_assoc, List.cons_append, List.nil_append] at hv ⊢
    rw [readMembers_more k hv, readMembers_congr (skipSpace_newline _ _), hl]
    rfl

end

/-- The JSON text of an outline is read as what the outline says. -/
theorem read?_render (o : Outline) : read? (render o) = some (Value.ofOutline o) := by
  have h := readValue_pretty o 0 (fuelFor (pretty 0 o)) [] (by rw [fuelFor]; omega)
  rw [List.append_nil] at h
  rw [read?, render, String.toList_ofList, h]
  rfl

end GameFixes.Json
