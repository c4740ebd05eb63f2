import GameFixes.Proofs.Operation.Inverse
import GameFixes.Proofs.Script.Reading

/-!
# Operations with equal texts

Operations are compared by their canonical texts. Not every operation is known by its text, but what
a script gives is, and what a text is read as, and the one against the other as well:

* `Operation.eq_of_text_eq`: an operation with an identifier as its name is known by its text;
* `Operation.eq_parse_of_text_eq`: so is such an operation among those that texts are read as;
* `Operation.eq_iff_text_eq`: operations that scripts and texts give are equal if their texts are.
-/

namespace GameFixes.Operation

variable {o p : Operation}

theorem argument_eq_of_ending_eq (h : o.ending = p.ending) : o.argument = p.argument := by
  rcases o with ⟨name, _ | value | raw⟩ <;> rcases p with ⟨name', _ | value' | raw'⟩ <;>
    simp_all [ending, String.toList_inj]

/-- An operation with an identifier as its name is known by its text. -/
theorem eq_of_text_eq (ho : isIdentifier o.name.toList = true)
    (hp : isIdentifier p.name.toList = true) (h : o.text = p.text) : o = p := by
  have htext : o.text.toList = p.name.toList ++ p.ending := by rw [h, toList_text]
  obtain ⟨hname, hending⟩ :=
    name_eq_and_ending_eq ho hp (fun _ _ => isIdentifierChar_of_ending) htext
  have hargument := argument_eq_of_ending_eq hending
  rcases o with ⟨name, argument⟩
  rcases p with ⟨name', argument'⟩
  obtain rfl := String.toList_inj.1 hname
  obtain rfl : argument = argument' := hargument
  rfl

/-! ### What scripts and texts give -/

/-- An operation with an identifier as its name is read back unless its text ends in a blank. -/
theorem readsBack_of_trimmed (hname : isIdentifier o.name.toList = true)
    (h : trimmed o.text = o.text) : ReadsBack o := by
  rcases o with ⟨name, _ | value | raw⟩
  · exact parse_text_eq_self_iff.1 (parse_bare hname)
  · obtain ⟨hvalue, hend⟩ := edges_of_trimmed_labelled h
    exact .labelled hname hvalue hend
  · exact .call hname raw

/-- What a text is read as has a trimmed text, so that its blanks cannot be mistaken. -/
theorem eq_parse_of_text_eq (hname : isIdentifier o.name.toList = true) {s : String}
    (h : o.text = (parse s).text) : o = parse s := by
  have htrim : trimmed o.text = o.text := by
    rw [h, ← text_parse, parse_text_parse]
  rw [← (readsBack_of_trimmed hname htrim).parse_text, h, parse_text_parse]

/-- An operation that some script has, or that some text is read as. -/
inductive IsGiven : Operation → Prop
  | script {source : String} {o : Operation} (h : o ∈ Script.operations source) : IsGiven o
  | text (s : String) : IsGiven (parse s)

/-- **Equality of operations is equality of their texts**, for all that scripts and texts give: two
of these operations have the same name and the same argument, in the same form, if and only if they
are written alike. -/
theorem eq_iff_text_eq (ho : IsGiven o) (hp : IsGiven p) : o = p ↔ o.text = p.text := by
  refine ⟨congrArg text, fun h => ?_⟩
  cases ho with
  | script ho =>
    have honame := Script.isIdentifier_name_of_mem_operations ho
    cases hp with
    | script hp => exact eq_of_text_eq honame (Script.isIdentifier_name_of_mem_operations hp) h
    | text s => exact eq_parse_of_text_eq honame h
  | text s =>
    cases hp with
    | script hp =>
      exact (eq_parse_of_text_eq (Script.isIdentifier_name_of_mem_operations hp) h.symm).symm
    | text t => rw [← parse_text_parse s, h, parse_text_parse]

/-- An empty value in a script, and the text of the operation that it gives: read as a text, this
says something else, and is written otherwise. -/
theorem eq_iff_text_eq_emptyValue :
    let o := labelled "disable_esync" ""
    let p := parse o.text
    IsGiven o ∧ IsGiven p ∧ (o = p ↔ o.text = p.text) ∧ o ≠ p := by
  intro o p
  have ho : IsGiven o :=
    @IsGiven.script "def main():\n    util.disable_esync('')\n" o (by decide +kernel)
  exact ⟨ho, .text _, eq_iff_text_eq ho (.text _), by decide +kernel⟩

/-- Other operations may be written alike and differ. -/
example : (labelled "name" "value").text = (bare "name: value").text ∧
    labelled "name" "value" ≠ bare "name: value" := by decide

end GameFixes.Operation
