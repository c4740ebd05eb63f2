import GameFixes.Proofs.Collection
import GameFixes.Proofs.Installer.Request

/-!
# The first offence ends a compilation

Operations compile to the changes that they ask for, one after another, unless some operation
offends. Then the first offence is the error of the whole list, whatever stands before and after it:

* `changesOf_eq_ok_iff`, `changesOf_eq_error_iff`: the changes of a list, and its error;
* `compile_first_offence`: when a title's operations have a document, and which error they have else.
-/

namespace GameFixes.Installer

variable {title : String}

/-- Something is wrong with an operation. -/
def IsOffending (title : String) (o : Operation) : Prop := ∃ e, Offends title o e

theorem not_isOffending_iff {o : Operation} : ¬ IsOffending title o ↔ ∃ c, Asks o c := by
  constructor
  · intro h
    exact (asks_or_offends title o).resolve_right h
  · rintro ⟨c, hc⟩ ⟨e, he⟩
    have h : changeOf title o = .ok c := changeOf_eq_of_asks hc
    rw [changeOf_eq_of_offends he] at h
    cases h

theorem isOffending_iff {o : Operation} : IsOffending title o ↔ (∀ k : Known, o.name ≠ k.name) ∨
    (o.name ∈ ["protontricks", "append_argument", "replace_command", "set_cpu_topology_limit"] ∧
      LacksText o) ∨
    (o.name ∈ ["winedll_override", "set_environment"] ∧ LacksPair o) := by
  constructor
  · rintro ⟨e, he⟩
    cases he with
    | unhandled name => exact Or.inl name
    | missingArgument name text => exact Or.inr (Or.inl ⟨name, text⟩)
    | expectedKeyValue name pair => exact Or.inr (Or.inr ⟨name, pair⟩)
  · rintro (name | ⟨name, text⟩ | ⟨name, pair⟩)
    · exact ⟨_, .unhandled name⟩
    · exact ⟨_, .missingArgument name text⟩
    · exact ⟨_, .expectedKeyValue name pair⟩

/-- The change that an operation asks for, if it asks for one. -/
def request (o : Operation) : Option Change :=
  match changeOf "" o with
  | .ok c => c
  | .error _ => none

theorem request_of_asks {o : Operation} {c : Option Change} (h : Asks o c) : request o = c := by
  rw [request, changeOf_eq_of_asks h]

theorem changesOf_cons_of_asks {o : Operation} {c : Option Change} (h : Asks o c)
    (os : List Operation) : changesOf title (o :: os) = (changesOf title os).map (c.toList ++ ·) := by
  rw [changesOf, changeOf_eq_of_asks h]

theorem changesOf_cons_of_offends {o : Operation} {e : CompileError} (h : Offends title o e)
    (os : List Operation) : changesOf title (o :: os) = .error e := by
  rw [changesOf, changeOf_eq_of_offends h]

/-- Operations none of which offends have the changes that they ask for, in their order. -/
theorem changesOf_of_asks {os : List Operation} (h : ∀ o ∈ os, ∃ c, Asks o c) :
    changesOf title os = .ok (os.filterMap request) := by
  induction os with
  | nil => rfl
  | cons o os ih =>
    rw [List.forall_mem_cons] at h
    obtain ⟨⟨c, hc⟩, hos⟩ := h
    rw [changesOf_cons_of_asks hc, ih hos, List.filterMap_cons, request_of_asks hc]
    cases c <;> rfl

/-- The first offence is the error, whatever comes after it. -/
theorem changesOf_of_first {before : List Operation} {o : Operation} {e : CompileError}
    (h : ∀ x ∈ before, ∃ c, Asks x c) (he : Offends title o e) (after : List Operation) :
    changesOf title (before ++ o :: after) = .error e := by
  induction before with
  | nil => exact changesOf_cons_of_offends he after
  | cons x before ih =>
    rw [List.forall_mem_cons] at h
    obtain ⟨⟨c, hc⟩, hb⟩ := h
    rw [List.cons_append, changesOf_cons_of_asks hc, ih hb]
    rfl

/-- Either no operation of a list offends, or there is a first one that does. -/
theorem asks_or_first (title : String) (os : List Operation) :
    (∀ o ∈ os, ∃ c, Asks o c) ∨ ∃ before o after e, os = before ++ o :: after ∧
      (∀ x ∈ before, ∃ c, Asks x c) ∧ Offends title o e := by
  by_cases h : ∃ o ∈ os, IsOffending title o
  · obtain ⟨before, o, after, rfl, ⟨e, he⟩, hb⟩ := exists_first h
    exact Or.inr ⟨before, o, after, e, rfl, fun x hx => not_isOffending_iff.1 (hb x hx), he⟩
  · exact Or.inl fun o ho => not_isOffending_iff.1 fun he => h ⟨o, ho, he⟩

theorem changesOf_eq_ok_iff {os : List Operation} {cs : List Change} :
    changesOf title os = .ok cs ↔ (∀ o ∈ os, ∃ c, Asks o c) ∧ os.filterMap request = cs := by
  constructor
  · intro h
    rcases asks_or_first title os with ha | ⟨before, o, after, e, rfl, hb, he⟩
    · rw [changesOf_of_asks ha] at h
      exact ⟨ha, Except.ok.inj h⟩
    · rw [changesOf_of_first hb he] at h
      cases h
  · rintro ⟨h, rfl⟩
    exact changesOf_of_asks h

theorem changesOf_eq_error_iff {os : List Operation} {e : CompileError} :
    changesOf title os = .error e ↔ ∃ before o after, os = before ++ o :: after ∧
      (∀ x ∈ before, ∃ c, Asks x c) ∧ Offends title o e := by
  constructor
  · intro h
    rcases asks_or_first title os with ha | ⟨before, o, after, e', rfl, hb, he⟩
    · rw [changesOf_of_asks ha] at h
      cases h
    · rw [changesOf_of_first hb he] at h
      cases h
      exact ⟨before, o, after, rfl, hb, he⟩
  · rintro ⟨before, o, after, rfl, hb, he⟩
    exact changesOf_of_first hb he after

theorem compile_eq_ok_iff {os : List Operation} {d : Document} :
    compile title os = .ok d ↔ (∀ o ∈ os, ∃ c, Asks o c) ∧
      (Draft.changes {} (os.filterMap request)).document = d := by
  unfold compile
  cases h : changesOf title os with
  | ok cs =>
    obtain ⟨ha, rfl⟩ := changesOf_eq_ok_iff.1 h
    rw [Except.map, Except.ok.injEq, and_iff_right ha]
  | error e =>
    have hn : ¬ ∀ o ∈ os, ∃ c, Asks o c := fun ha => by
      rw [changesOf_of_asks ha] at h
      cases h
    rw [Except.map, iff_false_right fun ha => hn ha.1]
    intro hd
    cases hd

theorem compile_eq_error_iff {os : List Operation} {e : CompileError} :
    compile title os = .error e ↔ changesOf title os = .error e := by
  unfold compile
  cases changesOf title os <;> simp [Except.map]

theorem compile_of_first {before : List Operation} {o : Operation} {e : CompileError}
    (hb : ∀ x ∈ before, ¬ IsOffending title x) (he : Offends title o e) (after : List Operation) :
    compile title (before ++ o :: after) = .error e :=
  compile_eq_error_iff.2
    (changesOf_of_first (fun x hx => not_isOffending_iff.1 (hb x hx)) he after)

theorem exists_text_of_compile_eq_error {os : List Operation} {e : CompileError}
    (h : compile title os = .error e) : ∃ o ∈ os, e.operation = o.text := by
  obtain ⟨before, o, after, rfl, -, he⟩ := changesOf_eq_error_iff.1 (compile_eq_error_iff.1 h)
  exact ⟨o, by simp, operation_of_offends he⟩

/-- **A title's operations have a document unless one of them offends, and then they have the error
of the first one that does.** That error is of this operation alone: what stands before it without
offending and what stands after it has no part in it. -/
theorem compile_first_offence (title : String) (os : List Operation) :
    ((∃ d, compile title os = .ok d) ↔ ∀ o ∈ os, ¬ IsOffending title o) ∧
    (∀ e, compile title os = .error e ↔ ∃ before o after, os = before ++ o :: after ∧
      (∀ x ∈ before, ¬ IsOffending title x) ∧ Offends title o e) ∧
    ∀ o e, Offends title o e → ∀ before after, (∀ x ∈ before, ¬ IsOffending title x) →
      compile title (before ++ o :: after) = .error e := by
  simp only [not_isOffending_iff]
  refine ⟨?_, fun e => ?_, fun o e he before after hb => ?_⟩
  · simp only [compile_eq_ok_iff, exists_and_left, exists_eq', and_true]
  · rw [compile_eq_error_iff, changesOf_eq_error_iff]
  · rw [compile_eq_error_iff]
    exact changesOf_of_first hb he after

/-- A variable without a name is the error of its list, after an override and before an unknown
operation. -/
theorem compile_first_offence_variable :
    (Offends "Game" (.labelled "set_environment" "=1")
        (.malformed "set_environment: =1" "Game" .expectedKeyValue) ∧
      ∀ x ∈ [Operation.labelled "winedll_override" "d3d9=n,b"], ¬ IsOffending "Game" x) ∧
    compile "Game" ([.labelled "winedll_override" "d3d9=n,b"] ++
        .labelled "set_environment" "=1" :: [.bare "no_such_fix"]) =
      .error (.malformed "set_environment: =1" "Game" .expectedKeyValue) := by
  have hpair : LacksPair (.labelled "set_environment" "=1") := by
    intro key value h
    have hk : Operation.keyValue (.labelled "set_environment" "=1") = some ("", "1") := by decide
    rw [keyValue_eq_some_iff.2 h] at hk
    exact congrArg Prod.fst (Option.some.inj hk)
  have ho : Offends "Game" (.labelled "set_environment" "=1")
      (.malformed "set_environment: =1" "Game" .expectedKeyValue) :=
    .expectedKeyValue (by decide) hpair
  have hb : ∀ x ∈ [Operation.labelled "winedll_override" "d3d9=n,b"], ¬ IsOffending "Game" x := by
    rw [List.forall_mem_singleton, not_isOffending_iff]
    exact ⟨_, .overrideDll rfl (keyValue_eq_some_iff.1 (by decide : _ = some ("d3d9", "n,b")))
      (by decide)⟩
  exact ⟨⟨ho, hb⟩, (compile_first_offence "Game" []).2.2 _ _ ho _ _ hb⟩

end GameFixes.Installer
