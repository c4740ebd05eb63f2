import GameFixes.Proofs.Script.LiteralList

/-!
# A literal on its own

An argument that is one string literal and nothing else, said without a reader that goes through it:

* `IsLiteral s v`: the text `s` is one literal of the value `v`, perhaps with a comma after it;
* `listsLiterals_singleton_iff`: such a text lists one value, and every text that does is one;
* `literals?_eq_singleton_iff`: the reader finds one literal where there is one.
-/

namespace GameFixes.Script

/-- A text is one literal that says a value. A comma may follow it, and blanks may stand around it,
but no other argument stands beside it. -/
def IsLiteral (s v : List Char) : Prop :=
  ∃ q t r, Text.trimStart s = q :: (t ++ q :: r) ∧ isQuote q = true ∧ Says q t v ∧
    (Text.trim r = [] ∨ Text.trim r = [','])

variable {s v : List Char}

/-- One literal is listed where there is one, with or without a comma after it. -/
theorem listsLiterals_singleton_iff : ListsLiterals s [v] ↔ IsLiteral s v := by
  constructor
  · intro h
    generalize hvs : [v] = vs at h
    cases h with
    | @plain p i w ws head last =>
      obtain ⟨rfl, rfl⟩ : ws = [] ∧ w = v := by simpa [List.singleton_eq_append_iff] using hvs
      cases head
      obtain ⟨before, quote, body, after⟩ := last
      refine ⟨_, _, _, ?_, quote, body, .inl (Text.trim_eq_nil_iff.2 after)⟩
      rw [List.nil_append, Text.trimStart_append_of_blank before,
        Text.trimStart_cons_of_not_blank (isBlank_of_isQuote quote)]
    | @comma p b vs head ne blank =>
      subst hvs
      cases head with
      | cons item rest =>
        cases rest
        obtain @⟨p, t, r, v, q, before, quote, body, after⟩ := item
        refine ⟨q, t, r ++ ',' :: b, ?_, quote, body, .inr ?_⟩
        · simp [Text.trimStart_append_of_blank before,
            Text.trimStart_cons_of_not_blank (isBlank_of_isQuote quote)]
        · have hcomma := Text.trim_append_blanks blank [',']
          rw [Text.trim_append_of_blank after, ← List.singleton_append, hcomma]
          rfl
  · rintro ⟨q, t, r, hs, hq, ht, hr⟩
    obtain ⟨b, hb, hblank⟩ := Text.exists_eq_append_trimStart s
    rw [hb, hs]
    rcases hr with hr | hr
    · exact .plain .nil (.intro hblank hq ht (Text.trim_eq_nil_iff.1 hr))
    · obtain ⟨p, p', hr', hp, hp'⟩ := Text.exists_eq_append_trim r
      rw [hr', hr]
      have hitem : IsItem (b ++ q :: (t ++ q :: p)) v := .intro hblank hq ht hp
      simpa using ListsLiterals.comma (.cons hitem .nil) (List.cons_ne_nil v []) hp'

/-- **The reader of literals finds one literal exactly where there is one.** -/
theorem literals?_eq_singleton_iff : literals? s = some [v] ↔ IsLiteral s v :=
  literals?_eq_some_iff.trans listsLiterals_singleton_iff

end GameFixes.Script
