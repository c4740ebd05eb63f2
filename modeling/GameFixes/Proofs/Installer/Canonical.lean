import GameFixes.Proofs.Installer.Description
import GameFixes.Proofs.Script.Reading

/-!
# Compiling canonical texts

The operations of a script, written as canonical texts and read back, lose the blanks at the end of
their values. What that changes about their document or their error:

* `isText_withoutEnd`, `isPair_withoutEnd`, `isOffending_withoutEnd`: what an argument says without
  its end;
* `describes_withoutEnd_iff`: the document is the same unless such an end is what some field ends
  up with;
* `compile_reparsed_iff`: the texts of a script compile as the script does if and only if every
  operation up to the first offence keeps what counts of it (`IsKept`).
-/

namespace GameFixes.Installer

open Operation

variable {title : String} {o : Operation}

/-! ### Arguments without their end -/

theorem trimmedEnd_pair (key value : String) :
    trimmedEnd (key ++ "=" ++ value) = key ++ "=" ++ trimmedEnd value := by
  refine String.toList_inj.1 ?_
  have h := Text.trimEnd_append_cons (c := '=') (by decide) key.toList value.toList
  simpa using h

theorem argumentText_withoutEnd (o : Operation) :
    o.withoutEnd.argumentText.map trimmed = o.argumentText.map trimmed := by
  rcases o with ⟨name, _ | v | raw⟩
  · rfl
  · exact congrArg some (trimmed_trimmedEnd v)
  · rfl

theorem isText_withoutEnd {text : String} : IsText o.withoutEnd text ↔ IsText o text := by
  rw [IsText, IsText, argumentText_withoutEnd]

theorem isPair_withoutEnd {key value : String} :
    IsPair o.withoutEnd key value ↔ ∃ v, IsPair o key v ∧ trimmedEnd v = value := by
  rcases o with ⟨name, _ | text | raw⟩
  · simp [IsPair, withoutEnd]
  · show some (Argument.labelled (trimmedEnd text)) = _ ∧ _ ↔
      ∃ v, (some (Argument.labelled text) = _ ∧ _) ∧ _
    simp only [Option.some.injEq, Argument.labelled.injEq]
    constructor
    · rintro ⟨ht, hk⟩
      obtain ⟨q, hs, -⟩ := Text.exists_eq_trimEnd_append text.toList
      have htext : text = key ++ "=" ++ (value ++ String.ofList q) := by
        rw [← toList_trimmedEnd, ht] at hs
        exact String.toList_inj.1 (by simpa using hs)
      rw [htext, trimmedEnd_pair] at ht
      exact ⟨_, ⟨htext, hk⟩, String.append_right_inj _ |>.1 ht⟩
    · rintro ⟨v, ⟨rfl, hk⟩, rfl⟩
      exact ⟨trimmedEnd_pair key v, hk⟩
  · simp [IsPair, withoutEnd]

theorem lacksPair_withoutEnd : LacksPair o.withoutEnd ↔ LacksPair o := by
  unfold LacksPair
  simp only [isPair_withoutEnd]
  exact ⟨fun h key v hp => h key _ ⟨v, hp, rfl⟩, fun h key _ ⟨v, hp, _⟩ => h key v hp⟩

/-- An operation with a pair keeps it if its value ends in no blank. -/
theorem withoutEnd_eq_iff_of_isPair {key value : String} (h : IsPair o key value) :
    o.withoutEnd = o ↔ trimmedEnd value = value := by
  constructor
  · intro ho
    have hp : IsPair o.withoutEnd key (trimmedEnd value) := isPair_withoutEnd.2 ⟨value, h, rfl⟩
    rw [ho] at hp
    exact (hp.unique h).2
  · intro hv
    obtain ⟨name, argument⟩ := o
    obtain ⟨rfl, -⟩ := h
    show labelled name (trimmedEnd (key ++ "=" ++ value)) = labelled name (key ++ "=" ++ value)
    rw [trimmedEnd_pair, hv]

/-- What an executable is replaced by never ends in a blank after the end is lost. -/
theorem trimmedEnd_of_isReplacement_withoutEnd {exe : String}
    (h : IsReplacement o.withoutEnd exe) : trimmedEnd exe = exe := by
  rcases h with ⟨-, key, hp⟩ | ⟨-, ht, -⟩
  · obtain ⟨v, -, rfl⟩ := isPair_withoutEnd.1 hp
    exact trimmedEnd_trimmedEnd v
  · obtain ⟨v, -, rfl⟩ := Option.map_eq_some_iff.1 ht
    exact trimmedEnd_trimmed v

/-- Without a pair an executable is the trimmed text, so that the end does not count. -/
theorem isReplacement_withoutEnd_of_no_pair {exe : String} (h : ∀ key v, ¬ IsPair o key v) :
    IsReplacement o.withoutEnd exe ↔ IsReplacement o exe := by
  have hw : ∀ key v, ¬ IsPair o.withoutEnd key v := by
    intro key v hp
    obtain ⟨w, hp, -⟩ := isPair_withoutEnd.1 hp
    exact h key w hp
  simp only [IsReplacement, h, hw, exists_false, and_false, false_or, false_imp_iff, implies_true,
    true_and, isText_withoutEnd]

/-! ### Offences without their end -/

theorem isOffending_withoutEnd : IsOffending title o.withoutEnd ↔ IsOffending title o := by
  simp only [isOffending_iff, name_withoutEnd, lacksText_iff, isText_withoutEnd,
    lacksPair_withoutEnd]

theorem withoutEnd_eq_of_text_eq (h : o.withoutEnd.text = o.text) : o.withoutEnd = o := by
  rcases o with ⟨name, _ | v | raw⟩
  · rfl
  · have hv : trimmedEnd v = v := String.append_right_inj (name ++ ": ") |>.1 h
    show labelled name (trimmedEnd v) = labelled name v
    rw [hv]
  · rfl

/-! ### Documents without the ends -/

/-- The value of an operation ends in blanks, and what it sets is the value with its end. -/
def EndCounts (o : Operation) : Prop :=
  o.withoutEnd ≠ o ∧ o.name ∈ ["winedll_override", "set_environment", "replace_command"] ∧
    ∃ key v, IsPair o key v

/-- Two operations set the same field, so that only the later one counts. -/
def Overwrites (x o : Operation) : Prop :=
  x.name = o.name ∧
    (o.name = "replace_command" ∨ ∃ key v w, IsPair x key v ∧ IsPair o key w)

theorem withoutEnd_eq_or_no_pair
    (hn : o.name ∈ ["winedll_override", "set_environment", "replace_command"])
    (h : ¬ EndCounts o) : o.withoutEnd = o ∨ ∀ key v, ¬ IsPair o key v := by
  by_cases hp : ∃ key v, IsPair o key v
  · exact Or.inl (not_not.1 fun ho => h ⟨ho, hn, hp⟩)
  · exact Or.inr fun key v hkv => hp ⟨key, v, hkv⟩

theorem exists_isPair_withoutEnd {key : String} :
    (∃ v, IsPair o.withoutEnd key v) ↔ ∃ v, IsPair o key v := by
  simp only [isPair_withoutEnd]
  exact ⟨fun ⟨_, v, hp, _⟩ => ⟨v, hp⟩, fun ⟨v, hp⟩ => ⟨_, v, hp, rfl⟩⟩

theorem exists_isText_withoutEnd_iff (os : List Operation) (name text : String) :
    (∃ o, IsLast (·.name = name) (os.map withoutEnd) o ∧ IsText o text) ↔
      ∃ o, IsLast (·.name = name) os o ∧ IsText o text := by
  rw [exists_isLast_map_iff]
  simp only [name_withoutEnd, isText_withoutEnd]

section Kept

variable {os : List Operation} (hos : ∀ before o after, os = before ++ o :: after →
  EndCounts o → ∃ x ∈ after, Overwrites x o)

include hos

/-- What a field ends up with does not depend on an end. -/
theorem not_endCounts_of_isLast {p : Operation → Prop} (hl : IsLast p os o)
    (hp : ∀ x, Overwrites x o → p x) : ¬ EndCounts o := by
  obtain ⟨before, after, hsplit, -, hafter⟩ := hl
  intro he
  obtain ⟨x, hx, hw⟩ := hos before o after hsplit he
  exact hafter x hx (hp x hw)

theorem exists_isReplacement_withoutEnd_iff (exe : String) :
    (∃ o, IsLast (·.name = "replace_command") (os.map withoutEnd) o ∧ IsReplacement o exe) ↔
      ∃ o, IsLast (·.name = "replace_command") os o ∧ IsReplacement o exe := by
  rw [exists_isLast_map_iff]
  simp only [name_withoutEnd]
  refine exists_congr fun o => and_congr_right fun hl => ?_
  have hn : o.name = "replace_command" := hl.prop
  have he := not_endCounts_of_isLast hos hl fun x hw => hw.1.trans hn
  rcases withoutEnd_eq_or_no_pair (by simp [hn]) he with ho | hp
  · rw [ho]
  · exact isReplacement_withoutEnd_of_no_pair hp

theorem exists_isPair_withoutEnd_iff {name : String}
    (hname : name ∈ ["winedll_override", "set_environment"]) (key value : String) :
    (∃ o, IsLast (fun o => o.name = name ∧ ∃ v, IsPair o key v) (os.map withoutEnd) o ∧
        IsPair o key value) ↔
      ∃ o, IsLast (fun o => o.name = name ∧ ∃ v, IsPair o key v) os o ∧ IsPair o key value := by
  rw [exists_isLast_map_iff]
  simp only [name_withoutEnd, exists_isPair_withoutEnd]
  refine exists_congr fun o => and_congr_right fun hl => ?_
  obtain ⟨hn, v, hp⟩ : o.name = name ∧ ∃ v, IsPair o key v := hl.prop
  have he : ¬ EndCounts o := by
    refine not_endCounts_of_isLast hos hl fun x ⟨hx, hw⟩ => ⟨hx.trans hn, ?_⟩
    rcases hw with hr | ⟨key', v', w', hx', hp'⟩
    · rw [← hn, hr] at hname
      exact absurd hname (by decide)
    · obtain rfl := (hp.unique hp').1
      exact ⟨v', hx'⟩
  have hthree : o.name ∈ ["winedll_override", "set_environment", "replace_command"] := by
    rw [hn]
    exact List.mem_append_left ["replace_command"] hname
  rcases withoutEnd_eq_or_no_pair hthree he with ho | hno
  · rw [ho]
  · exact absurd hp (hno key v)

/-- No field depends on an end, so the document is described without the ends. -/
theorem Describes.withoutEnd {d : Document} (h : Describes os d) :
    Describes (os.map withoutEnd) d := by
  have hflag : ∀ name : String, (∃ o ∈ os.map Operation.withoutEnd, o.name = name) ↔
      ∃ o ∈ os, o.name = name := by
    simp
  refine
    { steps := ?_
      args := fun a => (h.args a).trans (exists_isText_withoutEnd_iff os _ a).symm
      exe := fun a => (h.exe a).trans (exists_isReplacement_withoutEnd_iff hos a).symm
      overrides := fun dll mode => (h.overrides dll mode).trans
        (exists_isPair_withoutEnd_iff hos (by decide) dll mode).symm
      eac := by simpa only [hflag] using h.eac
      battleye := by simpa only [hflag] using h.battleye
      esync := by simpa only [hflag] using h.esync
      fsync := by simpa only [hflag] using h.fsync
      env := fun var value => (h.env var value).trans
        (exists_isPair_withoutEnd_iff hos (by decide) var value).symm
      singleCpu := by simpa only [hflag] using h.singleCpu
      limitCpuCount := fun a => (h.limitCpuCount a).trans (exists_isText_withoutEnd_iff os _ a).symm
      sparse := h.sparse }
  rw [List.filter_map, List.forall₂_map_left_iff]
  simpa only [Function.comp_def, name_withoutEnd, isText_withoutEnd] using h.steps

end Kept

/-- If the ends change nothing about a document, none of them is what some field ends up with. -/
theorem exists_overwrites_of_describes {os before after : List Operation} {d : Document}
    (h : Describes os d) (h' : Describes (os.map withoutEnd) d)
    (hos : os = before ++ o :: after) (he : EndCounts o) : ∃ x ∈ after, Overwrites x o := by
  obtain ⟨ho, hname, key, v, hp⟩ := he
  by_contra hno
  have hlast : ∀ x ∈ after, ¬ Overwrites x o := fun x hx hw => hno ⟨x, hx, hw⟩
  -- the field of the operation ends up with its value, which ends in blanks
  have hv : trimmedEnd v ≠ v := fun hv => ho ((withoutEnd_eq_iff_of_isPair hp).2 hv)
  have hpair : ∀ {p : Operation → Prop},
      ¬ ∃ x, IsLast p (os.map withoutEnd) x ∧ IsPair x key v := by
    intro p hx
    obtain ⟨x, -, hx⟩ := exists_isLast_map_iff.1 hx
    obtain ⟨w, -, rfl⟩ := isPair_withoutEnd.1 hx
    exact hv (trimmedEnd_trimmedEnd w)
  have hlastPair : IsLast (fun x => x.name = o.name ∧ ∃ w, IsPair x key w) os o :=
    ⟨before, after, hos, ⟨rfl, v, hp⟩,
      fun x hx ⟨hn, w, hw⟩ => hlast x hx ⟨hn, Or.inr ⟨key, w, v, hw, hp⟩⟩⟩
  simp only [List.mem_cons, List.not_mem_nil, or_false] at hname
  rcases hname with hn | hn | hn
  · rw [hn] at hlastPair
    exact hpair ((h'.overrides key v).1 ((h.overrides key v).2 ⟨o, hlastPair, hp⟩))
  · rw [hn] at hlastPair
    exact hpair ((h'.env key v).1 ((h.env key v).2 ⟨o, hlastPair, hp⟩))
  · have hne : v ≠ "" := fun hnil => hv (by rw [hnil]; rfl)
    have hexe : (d.game.getD {}).exe = some v := (h.exe v).2 ⟨o, ⟨before, after, hos, hn,
      fun x hx hxn => hlast x hx ⟨hxn.trans hn.symm, Or.inl hn⟩⟩, Or.inl ⟨hne, key, hp⟩⟩
    obtain ⟨x, -, hx⟩ := exists_isLast_map_iff.1 ((h'.exe v).1 hexe)
    exact hv (trimmedEnd_of_isReplacement_withoutEnd hx)

/-- The document that operations describe is described without their ends too, unless an end is what
some field ends up with. -/
theorem describes_withoutEnd_iff {os : List Operation} {d : Document} (h : Describes os d) :
    Describes (os.map withoutEnd) d ↔ ∀ before o after, os = before ++ o :: after →
      EndCounts o → ∃ x ∈ after, Overwrites x o :=
  ⟨fun h' _ _ _ hos he => exists_overwrites_of_describes h h' hos he,
    fun hos => Describes.withoutEnd hos h⟩

/-! ### Operations read back -/

theorem isIdentifier_knownName (k : Known) : isIdentifier k.name.toList = true := by
  cases k <;> decide

/-- No operation with an identifier as its name is written as a name with a colon. -/
theorem text_ne_colon {name : String} (ho : isIdentifier o.name.toList = true)
    (hname : isIdentifier name.toList = true) : o.text ≠ name ++ ":" := by
  intro h
  have hl : o.text.toList = name.toList ++ [':'] := by simp [h]
  have hcolon : ∀ c t, [':'] = c :: t → isIdentifierChar c = false := by
    rintro c t ⟨⟩
    decide
  have hending : o.ending = [':'] := (name_eq_and_ending_eq ho hname hcolon hl).2
  rcases o with ⟨n, _ | v | raw⟩
  · cases hending
  · cases hending
  · cases hending

/-- An operation whose value is lost has no known name any more. -/
theorem offends_colon (title : String) {name : String} (hname : isIdentifier name.toList = true) :
    Offends title (bare (name ++ ":")) (.unhandled (name ++ ":") title) :=
  .unhandled fun k h => text_ne_colon (o := bare k.name) (isIdentifier_knownName k) hname h.symm

theorem map_reparsed_eq {os : List Operation}
    (hnames : ∀ o ∈ os, isIdentifier o.name.toList = true) (hvalues : ∀ o ∈ os, ¬ BlankValue o) :
    os.map reparsed = os.map withoutEnd :=
  List.map_congr_left fun o ho => reparsed_eq_withoutEnd (hnames o ho) (hvalues o ho)

theorem not_isOffending_map_withoutEnd {os : List Operation}
    (h : ∀ o ∈ os, ¬ IsOffending title o) : ∀ o ∈ os.map withoutEnd, ¬ IsOffending title o := by
  intro o ho
  obtain ⟨x, hx, rfl⟩ := List.mem_map.1 ho
  exact fun hw => h x hx (isOffending_withoutEnd.1 hw)

section Reparsed

variable {before after : List Operation}
  (hnames : ∀ x ∈ before ++ o :: after, isIdentifier x.name.toList = true)
  (hvalues : ∀ x ∈ before, ¬ BlankValue x) (hbefore : ∀ x ∈ before, ¬ IsOffending title x)

include hnames hvalues hbefore

/-- A value that is lost makes an error that the operations do not have. -/
theorem compile_reparsed_ne_of_blankValue (ho : BlankValue o) :
    compile title ((before ++ o :: after).map reparsed) ≠ compile title (before ++ o :: after) := by
  have hname : isIdentifier o.name.toList = true := hnames o (by simp)
  have hread : compile title ((before ++ o :: after).map reparsed) =
      .error (.unhandled (o.name ++ ":") title) := by
    rw [List.map_append, List.map_cons, reparsed_of_blankValue hname ho,
      map_reparsed_eq (fun x hx => hnames x (by simp [hx])) hvalues]
    exact compile_of_first (not_isOffending_map_withoutEnd hbefore) (offends_colon title hname) _
  rw [hread]
  intro h
  obtain ⟨x, hx, ht⟩ := exists_text_of_compile_eq_error h.symm
  exact text_ne_colon (hnames x hx) hname ht.symm

/-- The first error is the same if it names its operation by the same text. -/
theorem compile_reparsed_iff_of_isOffending (hvalue : ¬ BlankValue o) (ho : IsOffending title o) :
    compile title ((before ++ o :: after).map reparsed) = compile title (before ++ o :: after) ↔
      o.withoutEnd = o := by
  have hname : isIdentifier o.name.toList = true := hnames o (by simp)
  obtain ⟨e, he⟩ := ho
  obtain ⟨e', he'⟩ : IsOffending title o.withoutEnd := isOffending_withoutEnd.2 ⟨e, he⟩
  have hread : compile title ((before ++ o :: after).map reparsed) = .error e' := by
    rw [List.map_append, List.map_cons, reparsed_eq_withoutEnd hname hvalue,
      map_reparsed_eq (fun x hx => hnames x (by simp [hx])) hvalues]
    exact compile_of_first (not_isOffending_map_withoutEnd hbefore) he' _
  rw [hread, compile_of_first hbefore he]
  constructor
  · intro h
    refine withoutEnd_eq_of_text_eq ?_
    rw [← operation_of_offends he', ← operation_of_offends he, Except.error.inj h]
  · intro h
    rw [h] at he'
    rw [he'.unique he]

end Reparsed

/-- Operations without an error have the same document unless an end is what some field ends up
with. -/
theorem compile_reparsed_iff_of_asks {os : List Operation}
    (hnames : ∀ o ∈ os, isIdentifier o.name.toList = true) (hvalues : ∀ o ∈ os, ¬ BlankValue o)
    (hasks : ∀ o ∈ os, ¬ IsOffending title o) :
    compile title (os.map reparsed) = compile title os ↔ ∀ before o after,
      os = before ++ o :: after → EndCounts o → ∃ x ∈ after, Overwrites x o := by
  have hd := describes_document fun o ho => not_isOffending_iff.1 (hasks o ho)
  have hd' := describes_document fun o ho =>
    not_isOffending_iff.1 (not_isOffending_map_withoutEnd hasks o ho)
  have hok : compile title os = .ok _ :=
    compile_eq_ok_iff.2 ⟨fun o ho => not_isOffending_iff.1 (hasks o ho), rfl⟩
  have hok' : compile title (os.map withoutEnd) = .ok _ := compile_eq_ok_iff.2
    ⟨fun o ho => not_isOffending_iff.1 (not_isOffending_map_withoutEnd hasks o ho), rfl⟩
  rw [map_reparsed_eq hnames hvalues, hok, hok', Except.ok.injEq, ← describes_withoutEnd_iff hd]
  exact ⟨fun h => h ▸ hd', hd'.unique⟩

/-- What counts of an operation is kept when it is read back in front of others. -/
structure IsKept (title : String) (o : Operation) (after : List Operation) : Prop where
  /-- Its value is read back at all. -/
  value : ¬ BlankValue o
  /-- An error that names it names the same text. -/
  error : IsOffending title o → o.withoutEnd = o
  /-- The blanks that its value loses are in no field of a document. -/
  field : EndCounts o → ∃ x ∈ after, IsOffending title x ∨ Overwrites x o

/-- Where the first offence names the same text, everything up to it is kept. -/
theorem isKept_of_first {before after b a : List Operation} {x : Operation}
    (hvalues : ∀ y ∈ before, ¬ BlankValue y) (hbefore : ∀ y ∈ before, ¬ IsOffending title y)
    (hvalue : ¬ BlankValue o) (ho : IsOffending title o) (hend : o.withoutEnd = o)
    (hsplit : before ++ o :: after = b ++ x :: a) (hb : ∀ y ∈ b, ¬ IsOffending title y) :
    IsKept title x a := by
  have hfirst : IsKept title o after := ⟨hvalue, fun _ => hend, fun he => absurd hend he.1⟩
  -- the operation `x` stands before the offence, or is it
  rcases List.append_eq_append_iff.1 hsplit with ⟨m, rfl, hm⟩ | ⟨m, rfl, hm⟩
  · cases m with
    | nil =>
      obtain ⟨rfl, rfl⟩ := List.cons.inj hm
      exact hfirst
    | cons y m =>
      obtain ⟨rfl, -⟩ := List.cons.inj hm
      exact absurd ho (hb o (by simp))
  · cases m with
    | nil =>
      obtain ⟨rfl, rfl⟩ := List.cons.inj hm
      exact hfirst
    | cons y m =>
      obtain ⟨rfl, rfl⟩ := List.cons.inj hm
      exact ⟨hvalues x (by simp), fun hx => absurd hx (hbefore x (by simp)),
        fun _ => ⟨o, by simp, Or.inl ho⟩⟩

theorem compile_map_reparsed_iff {os : List Operation}
    (hnames : ∀ o ∈ os, isIdentifier o.name.toList = true) :
    compile title (os.map reparsed) = compile title os ↔ ∀ before o after,
      os = before ++ o :: after → (∀ x ∈ before, ¬ IsOffending title x) →
        IsKept title o after := by
  by_cases hstop : ∃ o ∈ os, BlankValue o ∨ IsOffending title o
  · obtain ⟨before, o, after, rfl, ho, hfirst⟩ := exists_first hstop
    have hvalues : ∀ x ∈ before, ¬ BlankValue x := fun x hx h => hfirst x hx (Or.inl h)
    have hbefore : ∀ x ∈ before, ¬ IsOffending title x := fun x hx h => hfirst x hx (Or.inr h)
    by_cases hvalue : BlankValue o
    · exact iff_of_false (compile_reparsed_ne_of_blankValue hnames hvalues hbefore hvalue)
        fun h => (h before o after rfl hbefore).value hvalue
    · have hoff : IsOffending title o := ho.resolve_left hvalue
      rw [compile_reparsed_iff_of_isOffending hnames hvalues hbefore hvalue hoff]
      exact ⟨fun h b x a => isKept_of_first hvalues hbefore hvalue hoff h,
        fun h => (h before o after rfl hbefore).error hoff⟩
  · have hvalues : ∀ o ∈ os, ¬ BlankValue o := fun o ho h => hstop ⟨o, ho, Or.inl h⟩
    have hasks : ∀ o ∈ os, ¬ IsOffending title o := fun o ho h => hstop ⟨o, ho, Or.inr h⟩
    rw [compile_reparsed_iff_of_asks hnames hvalues hasks]
    constructor
    · intro h before o after hsplit _
      have ho : o ∈ os := by simp [hsplit]
      refine ⟨hvalues o ho, fun hoff => absurd hoff (hasks o ho), fun he => ?_⟩
      obtain ⟨x, hx, hw⟩ := h before o after hsplit he
      exact ⟨x, hx, Or.inr hw⟩
    · intro h before o after hsplit he
      have hbefore : ∀ x ∈ before, ¬ IsOffending title x :=
        fun x hx => hasks x (by simp [hsplit, hx])
      obtain ⟨x, hx, hw⟩ := (h before o after hsplit hbefore).field he
      exact ⟨x, hx, hw.resolve_left (hasks x (by simp [hsplit, hx]))⟩

/-- **The canonical texts of a script compile as the script does if and only if what counts is kept
of every operation up to the first offence.** -/
theorem compile_reparsed_iff (source title : String) :
    compile title ((Script.operations source).map reparsed) =
        compile title (Script.operations source) ↔
      ∀ before o after, Script.operations source = before ++ o :: after →
        (∀ x ∈ before, ¬ IsOffending title x) → IsKept title o after :=
  compile_map_reparsed_iff fun _ ho => Script.isIdentifier_name_of_mem_operations ho

/-- Some values are lost, so that a script with a document has an error when it is read back. -/
theorem not_forall_compile_reparsed :
    ¬ ∀ source title, compile title ((Script.operations source).map reparsed) =
      compile title (Script.operations source) := by
  intro h
  have hops : Script.operations "def main():\n    util.disable_esync('')\n" =
      [.labelled "disable_esync" ""] := by decide +kernel
  have hsame := h "def main():\n    util.disable_esync('')\n" "Game"
  rw [hops] at hsame
  exact absurd hsame (by decide +kernel)

end GameFixes.Installer
