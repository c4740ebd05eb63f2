import GameFixes.Json.Reader
import Mathlib.Data.List.Infix

/-!
# Reading with enough fuel

The readers' fuel counts their calls. Between two of them the text gets shorter, so that beyond
about twice the length of the text it makes no difference how much fuel there is:

* `readValue_suffix`, `readItems_suffix`, `readMembers_suffix`: a reader leaves an end of the text;
* `readValue_fuel`, `readItems_fuel`, `readMembers_fuel`: any two amounts that are enough give the
  same result;
* `readArray?_of_read?`: an array is also read item by item, as a whole.
-/

namespace GameFixes.Json

variable {s r : List Char}

/-! ### What a reader leaves -/

theorem skipSpace_suffix (s : List Char) : skipSpace s <:+ s := List.dropWhile_suffix _

/-- What stands behind a token. -/
theorem suffix_of_skipSpace_eq (token : List Char) {t : List Char}
    (h : skipSpace s = token ++ t) : t <:+ s := by
  have hs := skipSpace_suffix s
  rw [h] at hs
  exact (List.suffix_append token t).trans hs

theorem readString_suffix {high : Option Nat} {t : StringRest} (h : readString high s = some t) :
    t.2 <:+ s := by
  fun_induction readString high s generalizing t with
  | case1 => cases h
  | case2 high s =>
    cases h
    exact List.suffix_cons _ _
  | case3 => cases h
  | case4 high a b c d s n hn ih =>
    obtain ⟨t, ht, rfl⟩ := Option.map_eq_some_iff.1 h
    exact (ih ht).trans (List.suffix_append ['\\', 'u', a, b, c, d] s)
  | case5 => cases h
  | case6 high c s _ e he ih =>
    obtain ⟨t, ht, rfl⟩ := Option.map_eq_some_iff.1 h
    exact (ih ht).trans (List.suffix_append ['\\', c] s)
  | case7 => cases h
  | case8 high c s _ _ _ _ ih =>
    obtain ⟨t, ht, rfl⟩ := Option.map_eq_some_iff.1 h
    exact (ih ht).trans (List.suffix_cons _ _)

theorem readText?_suffix {t : Option String} (h : readText? s = some (t, r)) : r <:+ s := by
  unfold readText? at h
  split at h
  · obtain ⟨⟨u, r'⟩, hu, heq⟩ := Option.map_eq_some_iff.1 h
    cases heq
    exact (readString_suffix hu).trans (List.suffix_cons _ _)
  · cases h

theorem readDigits?_suffix {d : List Char} (h : readDigits? s = some (d, r)) : r <:+ s := by
  unfold readDigits? at h
  rw [List.span_eq_takeWhile_dropWhile] at h
  split at h
  · cases h
  · cases h
    exact List.dropWhile_suffix _

theorem readWhole?_suffix {d : List Char} (h : readWhole? s = some (d, r)) : r <:+ s := by
  unfold readWhole? at h
  split at h
  · cases h
    exact List.suffix_cons _ _
  · exact readDigits?_suffix h

/-- Digits behind a sign or a point. -/
theorem suffix_of_map_readDigits? {f : List Char × List Char → List Char × List Char}
    {d : List Char} (h : (readDigits? s).map f = some (d, r)) (hf : ∀ p, (f p).2 = p.2) :
    r <:+ s := by
  obtain ⟨⟨d', r'⟩, hd, heq⟩ := Option.map_eq_some_iff.1 h
  have hr : r' = r := (hf (d', r')).symm.trans (congrArg Prod.snd heq)
  exact hr ▸ readDigits?_suffix hd

theorem readFraction?_suffix {d : List Char} (h : readFraction? s = some (d, r)) : r <:+ s := by
  unfold readFraction? at h
  split at h
  · exact (suffix_of_map_readDigits? h fun _ => rfl).trans (List.suffix_cons _ _)
  · cases h
    exact List.suffix_rfl

theorem readExponent?_suffix {d : List Char} (h : readExponent? s = some (d, r)) : r <:+ s := by
  unfold readExponent? at h
  split at h
  · split_ifs at h
    · split at h
      · exact (suffix_of_map_readDigits? h fun _ => rfl).trans (List.suffix_append [_, _] _)
      · exact (suffix_of_map_readDigits? h fun _ => rfl).trans (List.suffix_append [_, _] _)
      · exact (suffix_of_map_readDigits? h fun _ => rfl).trans (List.suffix_cons _ _)
    · cases h
      exact List.suffix_rfl
  · cases h
    exact List.suffix_rfl

theorem readNumber?_suffix {v : Value} (h : readNumber? s = some (v, r)) : r <:+ s := by
  unfold readNumber? at h
  simp only [Option.bind_eq_bind, Option.bind_eq_some_iff, Option.pure_def, Option.some.injEq,
    Prod.mk.injEq, Prod.exists] at h
  obtain ⟨whole, s₁, hwhole, fraction, s₂, hfraction, exponent, s₃, hexponent, -, rfl⟩ := h
  refine (readExponent?_suffix hexponent).trans <| (readFraction?_suffix hfraction).trans <|
    (readWhole?_suffix hwhole).trans ?_
  -- behind the sign
  split
  · exact List.suffix_cons _ _
  · exact List.suffix_rfl

mutual

theorem readValue_suffix : ∀ (fuel : Nat) {s r : List Char} {v : Value},
    readValue fuel s = some (v, r) → r <:+ s
  | fuel + 1, s, r, v, h => by
    rw [readValue] at h
    split at h
    · rename_i t ht
      cases h
      exact suffix_of_skipSpace_eq ['n', 'u', 'l', 'l'] ht
    · rename_i t ht
      cases h
      exact suffix_of_skipSpace_eq ['t', 'r', 'u', 'e'] ht
    · rename_i t ht
      cases h
      exact suffix_of_skipSpace_eq ['f', 'a', 'l', 's', 'e'] ht
    · rename_i t ht
      obtain ⟨⟨u, r'⟩, hu, heq⟩ := Option.map_eq_some_iff.1 h
      cases heq
      exact (readText?_suffix hu).trans (suffix_of_skipSpace_eq [] ht)
    · rename_i t ht
      refine List.IsSuffix.trans ?_ (suffix_of_skipSpace_eq ['['] ht)
      split at h
      · rename_i t' ht'
        cases h
        exact suffix_of_skipSpace_eq [']'] ht'
      · split at h
        · rename_i l r' hl
          cases h
          exact (readItems_suffix fuel hl).trans (skipSpace_suffix t)
        · cases h
    · rename_i t ht
      refine List.IsSuffix.trans ?_ (suffix_of_skipSpace_eq ['{'] ht)
      split at h
      · rename_i t' ht'
        cases h
        exact suffix_of_skipSpace_eq ['}'] ht'
      · obtain ⟨⟨l, r'⟩, hl, heq⟩ := Option.map_eq_some_iff.1 h
        cases heq
        exact (readMembers_suffix fuel hl).trans (skipSpace_suffix t)
    · exact (readNumber?_suffix h).trans (skipSpace_suffix s)

theorem readItems_suffix : ∀ (fuel : Nat) {s r : List Char} {l : List Value},
    readItems fuel s = (l, some r) → r <:+ s
  | fuel + 1, s, r, l, h => by
    rw [readItems] at h
    split at h
    · cases h
    · rename_i v t hv
      refine List.IsSuffix.trans ?_ (readValue_suffix fuel hv)
      split at h
      · rename_i t' ht'
        obtain ⟨hl, hr⟩ := Prod.mk.inj h
        exact (readItems_suffix fuel (Prod.ext rfl hr)).trans (suffix_of_skipSpace_eq [','] ht')
      · rename_i t' ht'
        cases h
        exact suffix_of_skipSpace_eq [']'] ht'
      · cases h

theorem readMembers_suffix : ∀ (fuel : Nat) {s r : List Char} {l : List (Option String × Value)},
    readMembers fuel s = some (l, r) → r <:+ s
  | fuel + 1, s, r, l, h => by
    rw [readMembers] at h
    split at h
    · cases h
    · rename_i k t hk
      refine List.IsSuffix.trans ?_ ((readText?_suffix hk).trans (skipSpace_suffix s))
      split at h
      · rename_i t' ht'
        refine List.IsSuffix.trans ?_ (suffix_of_skipSpace_eq [':'] ht')
        split at h
        · cases h
        · rename_i v u hv
          refine List.IsSuffix.trans ?_ (readValue_suffix fuel hv)
          split at h
          · rename_i u' hu'
            obtain ⟨⟨m, r'⟩, hm, heq⟩ := Option.map_eq_some_iff.1 h
            cases heq
            exact (readMembers_suffix fuel hm).trans (suffix_of_skipSpace_eq [','] hu')
          · rename_i u' hu'
            cases h
            exact suffix_of_skipSpace_eq ['}'] hu'
          · cases h
      · cases h

end

/-! ### Enough fuel -/

theorem length_lt_of_skipSpace_eq {c : Char} {s t : List Char} (h : skipSpace s = c :: t) :
    t.length < s.length := by
  have hlength := (skipSpace_suffix s).length_le
  rwa [h, List.length_cons] at hlength

mutual

theorem readValue_fuel : ∀ (fuel fuel' : Nat) {s : List Char}, 2 * s.length < fuel →
    2 * s.length < fuel' → readValue fuel s = readValue fuel' s
  | fuel + 1, fuel' + 1, s, h, h' => by
    rw [readValue, readValue]
    split
    · rfl
    · rfl
    · rfl
    · rfl
    · rename_i t ht
      have hlength := length_lt_of_skipSpace_eq ht
      have hinner := (skipSpace_suffix t).length_le
      split
      · rfl
      · rw [readItems_fuel fuel fuel' (s := skipSpace t) (by omega) (by omega)]
    · rename_i t ht
      have hlength := length_lt_of_skipSpace_eq ht
      have hinner := (skipSpace_suffix t).length_le
      split
      · rfl
      · rw [readMembers_fuel fuel fuel' (s := skipSpace t) (by omega) (by omega)]
    · rfl

theorem readItems_fuel : ∀ (fuel fuel' : Nat) {s : List Char}, 2 * s.length + 1 < fuel →
    2 * s.length + 1 < fuel' → readItems fuel s = readItems fuel' s
  | fuel + 1, fuel' + 1, s, h, h' => by
    rw [readItems, readItems, readValue_fuel fuel fuel' (s := s) (by omega) (by omega)]
    cases hv : readValue fuel' s with
    | none => rfl
    | some p =>
      obtain ⟨v, r⟩ := p
      have hlength := (readValue_suffix fuel' hv).length_le
      dsimp only
      split
      · rename_i t ht
        have hrest := length_lt_of_skipSpace_eq ht
        rw [readItems_fuel fuel fuel' (s := t) (by omega) (by omega)]
      · rfl
      · rfl

theorem readMembers_fuel : ∀ (fuel fuel' : Nat) {s : List Char}, 2 * s.length + 1 < fuel →
    2 * s.length + 1 < fuel' → readMembers fuel s = readMembers fuel' s
  | fuel + 1, fuel' + 1, s, h, h' => by
    rw [readMembers, readMembers]
    split
    · rfl
    · rename_i k t hk
      have hkey := ((readText?_suffix hk).trans (skipSpace_suffix s)).length_le
      split
      · rename_i u hu
        have hcolon := length_lt_of_skipSpace_eq hu
        rw [readValue_fuel fuel fuel' (s := u) (by omega) (by omega)]
        cases hv : readValue fuel' u with
        | none => rfl
        | some p =>
          obtain ⟨v, r⟩ := p
          have hlength := (readValue_suffix fuel' hv).length_le
          dsimp only
          split
          · rename_i t' ht'
            have hrest := length_lt_of_skipSpace_eq ht'
            rw [readMembers_fuel fuel fuel' (s := t') (by omega) (by omega)]
          · rfl
          · rfl
      · rfl

end

/-! ### Arrays -/

/-- A value that is an array stands between brackets. -/
theorem readValue_eq_array {fuel : Nat} {l : List Value}
    (h : readValue (fuel + 1) s = some (.array l, r)) :
    ∃ t, skipSpace s = '[' :: t ∧
      ((∃ t', skipSpace t = ']' :: t' ∧ l = [] ∧ r = t') ∨
        (∀ t', skipSpace t ≠ ']' :: t') ∧ readItems fuel (skipSpace t) = (l, some r)) := by
  rw [readValue] at h
  split at h
  · cases h
  · cases h
  · cases h
  · obtain ⟨p, -, heq⟩ := Option.map_eq_some_iff.1 h
    cases heq
  · rename_i t ht
    refine ⟨t, ht, ?_⟩
    split at h
    · rename_i t' ht'
      cases h
      exact .inl ⟨_, ht', rfl, rfl⟩
    · rename_i hne
      split at h
      · rename_i l' r' hl
        cases h
        exact .inr ⟨hne, hl⟩
      · cases h
  · rename_i t ht
    split at h
    · cases h
    · obtain ⟨p, -, heq⟩ := Option.map_eq_some_iff.1 h
      cases heq
  · unfold readNumber? at h
    simp [Option.bind_eq_some_iff] at h

/-- A text that is an array is also an array when it is read item by item, and without a fault. -/
theorem readArray?_of_read? {text : String} {l : List Value} (h : read? text = some (.array l)) :
    readArray? text = some (l, true) := by
  unfold read? at h
  split at h
  · rename_i v r hv
    split_ifs at h with hr
    cases h
    obtain ⟨t, ht, ⟨t', ht', rfl, rfl⟩ | ⟨hne, hl⟩⟩ := readValue_eq_array hv
    · simp only [readArray?, ht, ht', hr]
    · have hlength := length_lt_of_skipSpace_eq ht
      have hinner := (skipSpace_suffix t).length_le
      rw [readItems_fuel _ (fuelFor (skipSpace t)) (by omega) (by rw [fuelFor]; omega)] at hl
      simp only [readArray?, ht, hl, hr]
  · cases h

end GameFixes.Json
