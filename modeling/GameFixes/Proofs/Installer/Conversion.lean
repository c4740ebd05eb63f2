import GameFixes.Installer.Conversion
import Mathlib.Data.List.Pairwise

/-!
# The documents of fixes

A conversion goes through fixes one by one. What it writes is said here fix by fix:

* `documentOf?`: the written document of one fix, if it compiles to one that says something;
* `convert_keepGoing`: a conversion that keeps going writes the documents of all fixes that compile;
* `convert_of_compiles`, `convert_of_first`: one that does not writes the same if all fixes compile,
  and what comes before the first fix that does not compile otherwise.
-/

namespace GameFixes.Installer

open Checkout (FixScript)

variable {format : Format} {scripts before after : List FixScript} {f : FixScript}
  {e : CompileError}

/-- A fix has a document. -/
def Compiles (f : FixScript) : Prop := ∃ d, compile f.id f.operations = .ok d

/-- The written document of a fix, if it compiles to one that is not empty. -/
def documentOf? (format : Format) (f : FixScript) : Option Rendering :=
  match compile f.id f.operations with
  | .ok d => renderingOf? format f.id d
  | .error _ => none

/-- The written documents of fixes, in the order of the fixes. -/
def documents (format : Format) (scripts : List FixScript) : List Rendering :=
  scripts.filterMap (documentOf? format)

theorem documentOf?_eq_some_iff {r : Rendering} : documentOf? format f = some r ↔
    ∃ d, compile f.id f.operations = .ok d ∧ d.isEmpty = false ∧ r = ⟨f.id, format.render d⟩ := by
  unfold documentOf? renderingOf?
  cases compile f.id f.operations with
  | error => simp
  | ok d =>
    simp only [Except.ok.injEq, exists_eq_left', Option.ite_none_left_eq_some, Option.some.injEq,
      Bool.not_eq_true]
    exact and_congr_right fun _ => eq_comm

/-- The written documents of fixes are those of the fixes that compile to one that is not empty. -/
theorem mem_documents_iff {r : Rendering} : r ∈ documents format scripts ↔ ∃ f ∈ scripts,
    ∃ d, compile f.id f.operations = .ok d ∧ d.isEmpty = false ∧ r = ⟨f.id, format.render d⟩ := by
  simp only [documents, List.mem_filterMap, documentOf?_eq_some_iff]

/-- A document goes by the identifier of its fix. -/
theorem id_of_documentOf? {r : Rendering} (h : documentOf? format f = some r) : r.id = f.id := by
  obtain ⟨d, -, -, rfl⟩ := documentOf?_eq_some_iff.1 h
  rfl

theorem documents_cons (format : Format) (f : FixScript) (scripts : List FixScript) :
    documents format (f :: scripts) =
      (documentOf? format f).toList ++ documents format scripts := by
  unfold documents
  cases h : documentOf? format f with
  | none => rw [List.filterMap_cons_none h, Option.toList_none, List.nil_append]
  | some r => rw [List.filterMap_cons_some h, Option.toList_some, List.singleton_append]

theorem documents_append (format : Format) (before after : List FixScript) :
    documents format (before ++ after) = documents format before ++ documents format after :=
  List.filterMap_append

theorem not_compiles_iff : ¬ Compiles f ↔ ∃ e, compile f.id f.operations = .error e := by
  unfold Compiles
  cases compile f.id f.operations <;> simp

/-! ### Conversions -/

/-- A fix that compiles adds its document, if there is one. -/
theorem convert_cons_of_compiles (h : Compiles f) (keepGoing : Bool) (scripts : List FixScript) :
    convert format keepGoing (f :: scripts) =
      ((documentOf? format f).toList ++ (convert format keepGoing scripts).1,
        (convert format keepGoing scripts).2) := by
  obtain ⟨d, hd⟩ := h
  rw [convert, documentOf?, hd]

/-- A conversion that keeps going writes the documents of all fixes. -/
theorem convert_keepGoing (format : Format) (scripts : List FixScript) :
    convert format true scripts = (documents format scripts, none) := by
  induction scripts with
  | nil => rfl
  | cons f scripts ih =>
    rw [documents_cons]
    by_cases hf : Compiles f
    · rw [convert_cons_of_compiles hf, ih]
    · obtain ⟨e, he⟩ := not_compiles_iff.1 hf
      have hnone : documentOf? format f = none := by rw [documentOf?, he]
      rw [convert, he, hnone, Option.toList_none, List.nil_append]
      exact ih

/-- A conversion goes on after fixes that compile as if it began there. -/
theorem convert_append (h : ∀ f ∈ before, Compiles f) (keepGoing : Bool)
    (after : List FixScript) :
    convert format keepGoing (before ++ after) =
      (documents format before ++ (convert format keepGoing after).1,
        (convert format keepGoing after).2) := by
  induction before with
  | nil => rfl
  | cons f before ih =>
    rw [List.forall_mem_cons] at h
    rw [List.cons_append, convert_cons_of_compiles h.1, ih h.2, documents_cons,
      List.append_assoc]

/-- Fixes that all compile are converted in the same way whether or not it is to keep going. -/
theorem convert_of_compiles (h : ∀ f ∈ scripts, Compiles f) (keepGoing : Bool) :
    convert format keepGoing scripts = (documents format scripts, none) := by
  have happend : convert format keepGoing (scripts ++ []) = _ := convert_append h keepGoing []
  simpa [convert] using happend

/-- The first fix that does not compile ends the conversion. -/
theorem convert_of_first (hb : ∀ f ∈ before, Compiles f)
    (he : compile f.id f.operations = .error e) (after : List FixScript) :
    convert format false (before ++ f :: after) = (documents format before, some e) := by
  rw [convert_append hb, convert, he]
  simp

/-- A conversion without an error has the documents of all fixes. -/
theorem convert_of_error_eq_none {keepGoing : Bool}
    (h : (convert format keepGoing scripts).2 = none) :
    (convert format keepGoing scripts).1 = documents format scripts := by
  cases keepGoing with
  | true => rw [convert_keepGoing]
  | false =>
    induction scripts with
    | nil => rfl
    | cons f scripts ih =>
      by_cases hf : Compiles f
      · rw [convert_cons_of_compiles hf] at h ⊢
        rw [ih h, documents_cons]
      · obtain ⟨e, he⟩ := not_compiles_iff.1 hf
        rw [convert, he] at h
        cases h

/-! ### Documents -/

/-- The documents of the fixes with an identifier are those that go by it. -/
theorem documents_filter (format : Format) (id : String) (scripts : List FixScript) :
    documents format (scripts.filter (·.id = id)) =
      (documents format scripts).filter (·.id = id) := by
  induction scripts with
  | nil => rfl
  | cons f scripts ih =>
    rw [documents_cons, List.filter_append, ← ih]
    by_cases hf : f.id = id
    · have hall : (documentOf? format f).toList.filter (·.id = id) =
          (documentOf? format f).toList := by
        rw [List.filter_eq_self]
        intro r hr
        rw [id_of_documentOf? (Option.mem_toList.1 hr), hf, decide_eq_true rfl]
      rw [List.filter_cons_of_pos (by simpa using hf), documents_cons, hall]
    · have hnone : (documentOf? format f).toList.filter (·.id = id) = [] := by
        rw [List.filter_eq_nil_iff]
        intro r hr
        rw [id_of_documentOf? (Option.mem_toList.1 hr)]
        simpa using hf
      rw [List.filter_cons_of_neg (by simpa using hf), hnone, List.nil_append]

/-- The documents stand in the order of the fixes. -/
theorem documents_pairwise (h : scripts.Pairwise fun f g => f.id < g.id) :
    (documents format scripts).Pairwise fun r r' => r.id < r'.id := by
  refine List.Pairwise.filterMap _ (fun f g hfg r hr r' hr' => ?_) h
  rw [id_of_documentOf? hr, id_of_documentOf? hr']
  exact hfg

end GameFixes.Installer
