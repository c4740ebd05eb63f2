import GameFixes.Text.Utf8
import Mathlib.Data.String.Basic

/-!
# Texts and their bytes

Bytes and the characters that they spell, apart from how they are read:

* `SpelledBy bs c`: the bytes that spell a character, with the value that their bits have;
* `SpelledBy.encode`, `spelledBy_encode`: they are the encoding of the character;
* `readChar_eq_some_iff`: they are what is read as the character;
* `decode?_eq_some_iff`, `stringOf?_eq_some_iff`: bytes are read as a text if and only if they are
  its encoding;
* `encode_decodeLossy`: the lenient reading loses nothing where it replaces nothing;
* `bytesOf_lt_iff`: texts are ordered as their bytes are.
-/

namespace GameFixes.Text

/-! ### Characters -/

/-- A byte that may stand behind the first one of a character. -/
def IsTail (b : UInt8) : Prop := 0x80 ≤ b.toNat ∧ b.toNat ≤ 0xBF

/-- The bytes that spell a character. The bounds on the second byte leave out what has a shorter
spelling, surrogates, and what is beyond the last character. -/
inductive SpelledBy : List UInt8 → Char → Prop
  | one {a : UInt8} (ha : a.toNat < 0x80) : SpelledBy [a] (Char.ofNat a.toNat)
  | two {a b : UInt8} (ha : 0xC2 ≤ a.toNat ∧ a.toNat ≤ 0xDF) (hb : IsTail b) :
      SpelledBy [a, b] (Char.ofNat (a.toNat % 32 * 64 + (b.toNat - 0x80)))
  | three {a b c : UInt8} (ha : 0xE0 ≤ a.toNat ∧ a.toNat ≤ 0xEF) (hb : IsTail b) (hc : IsTail c)
      (hlow : a.toNat = 0xE0 → 0xA0 ≤ b.toNat) (hhigh : a.toNat = 0xED → b.toNat ≤ 0x9F) :
      SpelledBy [a, b, c]
        (Char.ofNat ((a.toNat % 16 * 64 + (b.toNat - 0x80)) * 64 + (c.toNat - 0x80)))
  | four {a b c d : UInt8} (ha : 0xF0 ≤ a.toNat ∧ a.toNat ≤ 0xF4) (hb : IsTail b) (hc : IsTail c)
      (hd : IsTail d) (hlow : a.toNat = 0xF0 → 0x90 ≤ b.toNat)
      (hhigh : a.toNat = 0xF4 → b.toNat ≤ 0x8F) :
      SpelledBy [a, b, c, d] (Char.ofNat (((a.toNat % 8 * 64 + (b.toNat - 0x80)) * 64 +
        (c.toNat - 0x80)) * 64 + (d.toNat - 0x80)))

theorem val_ofNat {v : Nat} (h : v.isValidChar) : (Char.ofNat v).val.toNat = v := by
  rw [Char.ofNat, dif_pos h]
  rfl

/-- The bytes that spell a character are its encoding. -/
theorem SpelledBy.encode {bs : List UInt8} {c : Char} (h : SpelledBy bs c) :
    String.utf8EncodeChar c = bs := by
  cases h with
  | @one a ha =>
    have hval := val_ofNat (v := a.toNat) (.inl (by omega))
    simp only [String.utf8EncodeChar, hval]
    rw [if_pos (by omega), UInt8.ofNat_toNat]
  | @two a b ha hb =>
    obtain ⟨v, hv⟩ : ∃ v, v = a.toNat % 32 * 64 + (b.toNat - 0x80) := ⟨_, rfl⟩
    unfold IsTail at hb
    have hval := val_ofNat (v := v) (.inl (by omega))
    have h1 : v / 64 % 32 + 192 = a.toNat := by omega
    have h2 : v % 64 + 128 = b.toNat := by omega
    simp only [← hv, String.utf8EncodeChar, hval]
    rw [if_neg (by omega), if_pos (by omega), h1, h2, UInt8.ofNat_toNat, UInt8.ofNat_toNat]
  | @three a b c ha hb hc hlow hhigh =>
    obtain ⟨v, hv⟩ : ∃ v, v = (a.toNat % 16 * 64 + (b.toNat - 0x80)) * 64 + (c.toNat - 0x80) :=
      ⟨_, rfl⟩
    unfold IsTail at hb hc
    have hval := val_ofNat (v := v) (by unfold Nat.isValidChar; omega)
    have h1 : v / 4096 % 16 + 224 = a.toNat := by omega
    have h2 : v / 64 % 64 + 128 = b.toNat := by omega
    have h3 : v % 64 + 128 = c.toNat := by omega
    simp only [← hv, String.utf8EncodeChar, hval]
    rw [if_neg (by omega), if_neg (by omega), if_pos (by omega), h1, h2, h3, UInt8.ofNat_toNat,
      UInt8.ofNat_toNat, UInt8.ofNat_toNat]
  | @four a b c d ha hb hc hd hlow hhigh =>
    obtain ⟨v, hv⟩ : ∃ v, v = ((a.toNat % 8 * 64 + (b.toNat - 0x80)) * 64 + (c.toNat - 0x80)) * 64 +
      (d.toNat - 0x80) := ⟨_, rfl⟩
    unfold IsTail at hb hc hd
    have hval := val_ofNat (v := v) (by unfold Nat.isValidChar; omega)
    have h1 : v / 262144 % 8 + 240 = a.toNat := by omega
    have h2 : v / 4096 % 64 + 128 = b.toNat := by omega
    have h3 : v / 64 % 64 + 128 = c.toNat := by omega
    have h4 : v % 64 + 128 = d.toNat := by omega
    simp only [← hv, String.utf8EncodeChar, hval]
    rw [if_neg (by omega), if_neg (by omega), if_neg (by omega), h1, h2, h3, h4, UInt8.ofNat_toNat,
      UInt8.ofNat_toNat, UInt8.ofNat_toNat, UInt8.ofNat_toNat]

/-- The encoding of a character spells it. -/
theorem spelledBy_encode (c : Char) : SpelledBy (String.utf8EncodeChar c) c := by
  obtain ⟨v, hv⟩ : ∃ v, v = c.val.toNat := ⟨_, rfl⟩
  have hc : Char.ofNat v = c := hv ▸ Char.ofNat_toNat c
  have hvalid : v < 0xD800 ∨ 0xDFFF < v ∧ v < 0x110000 := hv ▸ c.valid
  have hbyte {n : Nat} (hn : n < 256) : (UInt8.ofNat n).toNat = n := by
    rw [UInt8.toNat_ofNat', Nat.mod_eq_of_lt hn]
  simp only [String.utf8EncodeChar, ← hv]
  split_ifs with h1 h2 h3
  · have ha := hbyte (n := v) (by omega)
    have h := SpelledBy.one (a := UInt8.ofNat v) (by omega)
    rwa [ha, hc] at h
  · have ha := hbyte (n := v / 64 % 32 + 192) (by omega)
    have hb := hbyte (n := v % 64 + 128) (by omega)
    have h := SpelledBy.two (a := UInt8.ofNat (v / 64 % 32 + 192)) (b := UInt8.ofNat (v % 64 + 128))
      (by omega) (by unfold IsTail; omega)
    have hval : (v / 64 % 32 + 192) % 32 * 64 + (v % 64 + 128 - 0x80) = v := by omega
    rwa [ha, hb, hval, hc] at h
  · have ha := hbyte (n := v / 4096 % 16 + 224) (by omega)
    have hb := hbyte (n := v / 64 % 64 + 128) (by omega)
    have hd := hbyte (n := v % 64 + 128) (by omega)
    have h := SpelledBy.three (a := UInt8.ofNat (v / 4096 % 16 + 224))
      (b := UInt8.ofNat (v / 64 % 64 + 128)) (c := UInt8.ofNat (v % 64 + 128))
      (by omega) (by unfold IsTail; omega) (by unfold IsTail; omega) (by omega) (by omega)
    have hval : ((v / 4096 % 16 + 224) % 16 * 64 + (v / 64 % 64 + 128 - 0x80)) * 64 +
      (v % 64 + 128 - 0x80) = v := by omega
    rwa [ha, hb, hd, hval, hc] at h
  · have ha := hbyte (n := v / 262144 % 8 + 240) (by omega)
    have hb := hbyte (n := v / 4096 % 64 + 128) (by omega)
    have hd := hbyte (n := v / 64 % 64 + 128) (by omega)
    have he := hbyte (n := v % 64 + 128) (by omega)
    have h := SpelledBy.four (a := UInt8.ofNat (v / 262144 % 8 + 240))
      (b := UInt8.ofNat (v / 4096 % 64 + 128)) (c := UInt8.ofNat (v / 64 % 64 + 128))
      (d := UInt8.ofNat (v % 64 + 128)) (by omega) (by unfold IsTail; omega)
      (by unfold IsTail; omega) (by unfold IsTail; omega) (by omega) (by omega)
    have hval : (((v / 262144 % 8 + 240) % 8 * 64 + (v / 4096 % 64 + 128 - 0x80)) * 64 +
      (v / 64 % 64 + 128 - 0x80)) * 64 + (v % 64 + 128 - 0x80) = v := by omega
    rwa [ha, hb, hd, he, hval, hc] at h

/-! ### Order -/

theorem ofNat_lt_ofNat {v w : Nat} (hv : v.isValidChar) (hw : w.isValidChar) :
    Char.ofNat v < Char.ofNat w ↔ v < w := by
  rw [Char.lt_def, UInt32.lt_iff_toNat_lt, val_ofNat hv, val_ofNat hw]

/-- What spells a character comes before what spells a greater one, whatever stands behind. -/
theorem SpelledBy.append_lt_append {bs ds : List UInt8} {c d : Char} (hc : SpelledBy bs c)
    (hd : SpelledBy ds d) (h : c < d) (s t : List UInt8) : bs ++ s < ds ++ t := by
  -- Of two spellings the longer one has the greater first byte; those of one length differ as the
  -- numbers do whose digits their bytes hold.
  cases hc <;> cases hd
  case one.one =>
    rw [ofNat_lt_ofNat (.inl (by omega)) (.inl (by omega))] at h
    exact List.cons_lt_cons_iff.2 (.inl (UInt8.lt_iff_toNat_lt.2 h))
  all_goals
    unfold IsTail at *
    rw [ofNat_lt_ofNat (by unfold Nat.isValidChar; omega) (by unfold Nat.isValidChar; omega)] at h
    simp only [List.cons_append, List.cons_lt_cons_iff, UInt8.lt_iff_toNat_lt, ← UInt8.toNat_inj]
    omega

theorem encode_lt_encode {s t : List Char} (h : s < t) : encode s < encode t := by
  induction h with
  | @nil d t =>
    obtain ⟨b, bs, hbs⟩ := List.exists_cons_of_ne_nil (String.utf8EncodeChar_ne_nil (c := d))
    rw [encode, encode, List.flatMap_cons, hbs]
    exact List.nil_lt_cons ..
  | rel h => exact (spelledBy_encode _).append_lt_append (spelledBy_encode _) h _ _
  | cons _ ih => exact List.append_left_lt ih

/-! ### Reading -/

section

variable {a : UInt8}

theorem leadByte_eq (a : UInt8) : leadByte a =
    if 0xC2 ≤ a.toNat ∧ a.toNat ≤ 0xDF then some (1, 0x80, 0xBF)
    else if a.toNat = 0xE0 then some (2, 0xA0, 0xBF)
    else if a.toNat = 0xED then some (2, 0x80, 0x9F)
    else if 0xE1 ≤ a.toNat ∧ a.toNat ≤ 0xEF then some (2, 0x80, 0xBF)
    else if a.toNat = 0xF0 then some (3, 0x90, 0xBF)
    else if 0xF1 ≤ a.toNat ∧ a.toNat ≤ 0xF3 then some (3, 0x80, 0xBF)
    else if a.toNat = 0xF4 then some (3, 0x80, 0x8F)
    else none := by
  simp only [leadByte, UInt8.le_iff_toNat_le, ← UInt8.toNat_inj]
  rfl

theorem leadByte_two (h : 0xC2 ≤ a.toNat ∧ a.toNat ≤ 0xDF) :
    leadByte a = some (1, 0x80, 0xBF) := by
  rw [leadByte_eq, if_pos h]

theorem leadByte_three (h : 0xE0 ≤ a.toNat ∧ a.toNat ≤ 0xEF) :
    leadByte a = some (2, if a.toNat = 0xE0 then 0xA0 else 0x80,
      if a.toNat = 0xED then 0x9F else 0xBF) := by
  rw [leadByte_eq]
  split_ifs <;> first | rfl | omega

theorem leadByte_four (h : 0xF0 ≤ a.toNat ∧ a.toNat ≤ 0xF4) :
    leadByte a = some (3, if a.toNat = 0xF0 then 0x90 else 0x80,
      if a.toNat = 0xF4 then 0x8F else 0xBF) := by
  rw [leadByte_eq]
  split_ifs <;> first | rfl | omega

theorem leadByte_eq_none (h : a.toNat < 0xC2 ∨ 0xF4 < a.toNat) : leadByte a = none := by
  rw [leadByte_eq]
  split_ifs <;> first | rfl | omega

end

/-- A character goes on with a byte that fits. -/
theorem continueChar_eq_some_iff {n acc : Nat} {lo hi : UInt8} {bs rest : List UInt8} {c : Char} :
    continueChar (n + 1) acc lo hi bs = (some c, rest) ↔
      ∃ b bs', bs = b :: bs' ∧ (lo.toNat ≤ b.toNat ∧ b.toNat ≤ hi.toNat) ∧
        continueChar n (acc * 64 + (b.toNat - 0x80)) 0x80 0xBF bs' = (some c, rest) := by
  cases bs with
  | nil => simp [continueChar]
  | cons b bs =>
    simp only [continueChar, UInt8.le_iff_toNat_le, List.cons.injEq]
    split_ifs with h
    · constructor
      · intro hc
        exact ⟨b, bs, ⟨rfl, rfl⟩, h, hc⟩
      · rintro ⟨_, _, ⟨rfl, rfl⟩, -, hc⟩
        exact hc
    · constructor
      · rintro ⟨⟩
      · rintro ⟨_, _, ⟨rfl, rfl⟩, hb, -⟩
        exact absurd hb h

/-- Bounds that may be tighter than those of a tail. -/
theorem bounds_iff {p q : Prop} [Decidable p] [Decidable q] {lo hi b : UInt8}
    (hlo : 0x80 ≤ lo.toNat) (hhi : hi.toNat ≤ 0xBF) :
    ((if p then lo else 0x80).toNat ≤ b.toNat ∧ b.toNat ≤ (if q then hi else 0xBF).toNat) ↔
      IsTail b ∧ (p → lo.toNat ≤ b.toNat) ∧ (q → b.toNat ≤ hi.toNat) := by
  by_cases hp : p <;> by_cases hq : q <;>
    simp only [hp, hq, if_true, if_false, true_imp_iff, false_imp_iff, and_true, true_and, IsTail,
      UInt8.toNat_ofNat] <;> omega

theorem readChar_eq (a : UInt8) (bs : List UInt8) : readChar a bs =
    if a.toNat < 0x80 then (some (Char.ofNat a.toNat), bs)
    else
      match leadByte a with
      | none => (none, bs)
      | some (n, lo, hi) => continueChar n (a.toNat % (64 >>> n)) lo hi bs := by
  simp only [readChar, UInt8.lt_iff_toNat_lt]
  rfl

/-- What is read as a character is what spells it, and the rest is what stands behind. -/
theorem readChar_eq_some_iff {a : UInt8} {bs rest : List UInt8} {x : Char} :
    readChar a bs = (some x, rest) ↔ ∃ bs', SpelledBy (a :: bs') x ∧ bs = bs' ++ rest := by
  rw [readChar_eq]
  constructor
  · intro h
    by_cases hone : a.toNat < 0x80
    · rw [if_pos hone] at h
      obtain ⟨hx, rfl⟩ := Prod.mk.inj h
      exact ⟨[], Option.some.inj hx ▸ .one hone, rfl⟩
    rw [if_neg hone] at h
    by_cases htwo : 0xC2 ≤ a.toNat ∧ a.toNat ≤ 0xDF
    · rw [leadByte_two htwo] at h
      obtain ⟨b, _, rfl, hb, h⟩ := continueChar_eq_some_iff.1 h
      obtain ⟨hx, rfl⟩ := Prod.mk.inj h
      exact ⟨[b], Option.some.inj hx ▸ .two htwo hb, rfl⟩
    by_cases hthree : 0xE0 ≤ a.toNat ∧ a.toNat ≤ 0xEF
    · rw [leadByte_three hthree] at h
      obtain ⟨b, _, rfl, hb, h⟩ := continueChar_eq_some_iff.1 h
      obtain ⟨c, _, rfl, hc, h⟩ := continueChar_eq_some_iff.1 h
      obtain ⟨hx, rfl⟩ := Prod.mk.inj h
      obtain ⟨hb, hlow, hhigh⟩ := (bounds_iff (by decide) (by decide)).1 hb
      exact ⟨[b, c], Option.some.inj hx ▸ .three hthree hb hc hlow hhigh, rfl⟩
    by_cases hfour : 0xF0 ≤ a.toNat ∧ a.toNat ≤ 0xF4
    · rw [leadByte_four hfour] at h
      obtain ⟨b, _, rfl, hb, h⟩ := continueChar_eq_some_iff.1 h
      obtain ⟨c, _, rfl, hc, h⟩ := continueChar_eq_some_iff.1 h
      obtain ⟨d, _, rfl, hd, h⟩ := continueChar_eq_some_iff.1 h
      obtain ⟨hx, rfl⟩ := Prod.mk.inj h
      obtain ⟨hb, hlow, hhigh⟩ := (bounds_iff (by decide) (by decide)).1 hb
      exact ⟨[b, c, d], Option.some.inj hx ▸ .four hfour hb hc hd hlow hhigh, rfl⟩
    · rw [leadByte_eq_none (by omega)] at h
      cases h
  · rintro ⟨bs', h, rfl⟩
    cases h with
    | one ha => rw [if_pos ha, List.nil_append]
    | two ha hb =>
      rw [if_neg (by omega), leadByte_two ha]
      exact continueChar_eq_some_iff.2 ⟨_, _, rfl, hb, rfl⟩
    | three ha hb hc hlow hhigh =>
      rw [if_neg (by omega), leadByte_three ha]
      exact continueChar_eq_some_iff.2
        ⟨_, _, rfl, (bounds_iff (by decide) (by decide)).2 ⟨hb, hlow, hhigh⟩,
          continueChar_eq_some_iff.2 ⟨_, _, rfl, hc, rfl⟩⟩
    | four ha hb hc hd hlow hhigh =>
      rw [if_neg (by omega), leadByte_four ha]
      exact continueChar_eq_some_iff.2
        ⟨_, _, rfl, (bounds_iff (by decide) (by decide)).2 ⟨hb, hlow, hhigh⟩,
          continueChar_eq_some_iff.2 ⟨_, _, rfl, hc, continueChar_eq_some_iff.2
            ⟨_, _, rfl, hd, rfl⟩⟩⟩

/-- Bytes are read as a text if and only if they are its encoding. -/
theorem decode?_eq_some_iff {bs : List UInt8} {s : List Char} :
    decode? bs = some s ↔ encode s = bs := by
  constructor
  · intro h
    fun_induction decode? bs generalizing s with
    | case1 =>
      obtain rfl := Option.some.inj h
      rfl
    | case2 a bs c hc ih =>
      obtain ⟨t, ht, rfl⟩ := Option.map_eq_some_iff.1 h
      obtain ⟨bs', hspelled, hbs⟩ := readChar_eq_some_iff.1 (Prod.ext hc rfl)
      rw [encode, List.flatMap_cons, hspelled.encode]
      show a :: bs' ++ encode t = _
      rw [ih ht, List.cons_append, ← hbs]
    | case3 => cases h
  · rintro rfl
    induction s with
    | nil => simp [decode?]
    | cons c s ih =>
      obtain ⟨a, bs, hbs⟩ : ∃ a bs, String.utf8EncodeChar c = a :: bs :=
        List.exists_cons_of_ne_nil String.utf8EncodeChar_ne_nil
      have hread : readChar a (bs ++ encode s) = (some c, encode s) :=
        readChar_eq_some_iff.2 ⟨bs, hbs ▸ spelledBy_encode c, rfl⟩
      rw [encode, List.flatMap_cons, hbs]
      show decode? (a :: (bs ++ encode s)) = _
      rw [decode?, hread, ih]
      rfl

/-! ### Ill-formed parts -/

theorem continueChar_suffix (n acc : Nat) (lo hi : UInt8) (bs : List UInt8) :
    (continueChar n acc lo hi bs).2 <:+ bs := by
  fun_induction continueChar n acc lo hi bs with
  | case1 => exact List.suffix_refl _
  | case2 => exact List.suffix_refl _
  | case3 n acc lo hi b bs h ih => exact ih.trans (List.suffix_cons b bs)
  | case4 => exact List.suffix_refl _

theorem readChar_suffix (a : UInt8) (bs : List UInt8) : (readChar a bs).2 <:+ bs := by
  unfold readChar
  split
  · exact List.suffix_refl _
  · split
    · exact List.suffix_refl _
    · exact continueChar_suffix ..

/-- The lenient reading adds no bytes but those of the replacement character. -/
theorem mem_of_mem_encode_decodeLossy {bs : List UInt8} {b : UInt8}
    (h : b ∈ encode (decodeLossy bs)) : b ∈ bs ∨ b ∈ String.utf8EncodeChar '\uFFFD' := by
  fun_induction decodeLossy bs with
  | case1 => cases h
  | case2 a bs ih =>
    rw [encode, List.flatMap_cons, List.mem_append] at h
    rcases h with h | h
    · cases hread : (readChar a bs).1 with
      | none =>
        rw [hread] at h
        exact .inr h
      | some c =>
        obtain ⟨bs', hspelled, hbs⟩ := readChar_eq_some_iff.1 (Prod.ext hread rfl)
        rw [hread, Option.getD_some, hspelled.encode] at h
        rw [hbs, ← List.cons_append]
        exact .inl (List.mem_append_left _ h)
    · exact (ih h).imp_left fun h => List.mem_cons_of_mem _ ((readChar_suffix a bs).subset h)

/-- Where the lenient reading replaces nothing, it loses nothing. -/
theorem encode_decodeLossy {bs : List UInt8} (h : '\uFFFD' ∉ decodeLossy bs) :
    encode (decodeLossy bs) = bs := by
  fun_induction decodeLossy bs with
  | case1 => rfl
  | case2 a bs ih =>
    rw [List.mem_cons, not_or] at h
    cases hread : (readChar a bs).1 with
    | none =>
      rw [hread] at h
      exact absurd rfl h.1
    | some c =>
      obtain ⟨bs', hspelled, hbs⟩ := readChar_eq_some_iff.1 (Prod.ext hread rfl)
      rw [Option.getD_some, encode, List.flatMap_cons, hspelled.encode]
      show a :: bs' ++ encode _ = _
      rw [ih h.2, List.cons_append, ← hbs]

end GameFixes.Text

namespace GameFixes

/-- Bytes are read as a string if and only if they are its bytes. -/
theorem stringOf?_eq_some_iff {bs : List UInt8} {s : String} :
    stringOf? bs = some s ↔ bytesOf s = bs := by
  unfold stringOf? bytesOf
  rw [Option.map_eq_some_iff]
  constructor
  · rintro ⟨t, ht, rfl⟩
    rw [String.toList_ofList]
    exact Text.decode?_eq_some_iff.1 ht
  · intro h
    exact ⟨s.toList, Text.decode?_eq_some_iff.2 h, String.ofList_toList⟩

/-- The bytes of a string are read as that string. -/
theorem stringOf?_bytesOf (s : String) : stringOf? (bytesOf s) = some s :=
  stringOf?_eq_some_iff.2 rfl

/-- The lenient reading reads them so, too. -/
theorem stringOfLossy_bytesOf (s : String) : stringOfLossy (bytesOf s) = s := by
  rw [stringOfLossy, bytesOf, Text.decodeLossy_of_decode? (Text.decode?_eq_some_iff.2 rfl),
    String.ofList_toList]

/-- The lenient reading adds no bytes but those of the replacement character. -/
theorem mem_of_mem_bytesOf_stringOfLossy {bs : List UInt8} {b : UInt8}
    (h : b ∈ bytesOf (stringOfLossy bs)) : b ∈ bs ∨ b ∈ bytesOf "\uFFFD" := by
  rw [stringOfLossy, bytesOf, String.toList_ofList] at h
  exact Text.mem_of_mem_encode_decodeLossy h

theorem bytesOf_stringOfLossy {bs : List UInt8} (h : '\uFFFD' ∉ (stringOfLossy bs).toList) :
    bytesOf (stringOfLossy bs) = bs := by
  rw [stringOfLossy, String.toList_ofList] at h
  rw [stringOfLossy, bytesOf, String.toList_ofList, Text.encode_decodeLossy h]

@[simp] theorem bytesOf_append (s t : String) : bytesOf (s ++ t) = bytesOf s ++ bytesOf t := by
  rw [bytesOf, String.toList_append, Text.encode_append]
  rfl

/-- Texts that are spelled by the same bytes are the same. -/
theorem bytesOf_injective {s t : String} (h : bytesOf s = bytesOf t) : s = t :=
  Option.some.inj ((stringOf?_bytesOf s).symm.trans (h ▸ stringOf?_bytesOf t))

/-- Texts are ordered as their bytes are. -/
theorem bytesOf_lt_iff {s t : String} : bytesOf s < bytesOf t ↔ s < t := by
  have hlt {s t : String} (h : s < t) : bytesOf s < bytesOf t :=
    Text.encode_lt_encode (String.lt_iff_toList_lt.1 h)
  refine ⟨fun h => ?_, hlt⟩
  rcases lt_trichotomy s t with hst | rfl | hts
  · exact hst
  · exact absurd h (List.lt_irrefl _)
  · exact absurd h (List.lt_asymm (hlt hts))

theorem bytesOf_le_iff {s t : String} : bytesOf s ≤ bytesOf t ↔ s ≤ t := by
  rw [← not_lt, ← bytesOf_lt_iff]
  rfl

end GameFixes
