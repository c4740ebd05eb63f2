import GameFixes.Proofs.Script.Meaning

/-!
# The marker of a script

A marker stands after the operations of a script that has logic besides its calls. It has a name
like any operation, so a line of the script can call a function of that name:

* `MarkerLast os`: among the operations `os` the marker's name is used once at most, and last;
* `CallsMarker ls i`: line `i` of an entry routine calls the function with the marker's name;
* `markerLast_operations_iff`: in a script the name is used once and last unless such a call has
  another operation after it.
-/

namespace GameFixes.Script

/-- The name of the marker. -/
def markerName : String := Operation.additionalFixes.name

/-- At most one operation has the marker's name, and that is the last one. -/
structure MarkerLast (os : List Operation) : Prop where
  once : os.countP (·.name = markerName) ≤ 1
  last : ∀ o ∈ os, o.name = markerName → os.getLast? = some o

/-- The marker's name is used once and last if nothing stands after an operation with it. -/
theorem markerLast_iff_pairwise {os : List Operation} :
    MarkerLast os ↔ os.Pairwise fun o _ => o.name ≠ markerName := by
  induction os with
  | nil => exact ⟨fun _ => .nil, fun _ => ⟨by simp, by simp⟩⟩
  | cons o os ih =>
    rw [List.pairwise_cons, ← ih]
    cases os with
    | nil =>
      refine ⟨fun _ => ⟨by simp, by simp, by simp⟩, fun _ => ⟨?_, by simp⟩⟩
      exact List.countP_le_length
    | cons o' os =>
      by_cases ho : o.name = markerName
      · refine iff_of_false (fun h => ?_) fun h => h.1 o' List.mem_cons_self ho
        -- the first operation would be the last one too, and counted twice
        have hlast := h.last o List.mem_cons_self ho
        rw [List.getLast?_cons_cons] at hlast
        have hcount : 0 < (o' :: os).countP (·.name = markerName) :=
          List.countP_pos_iff.2 ⟨o, List.mem_of_getLast? hlast, by simpa using ho⟩
        have honce := h.once
        rw [List.countP_cons_of_pos (by simpa using ho)] at honce
        omega
      · constructor
        · rintro ⟨honce, hlast⟩
          rw [List.countP_cons_of_neg (by simpa using ho)] at honce
          rw [List.forall_mem_cons, List.getLast?_cons_cons] at hlast
          exact ⟨fun _ _ => ho, honce, hlast.2⟩
        · rintro ⟨-, honce, hlast⟩
          refine ⟨?_, List.forall_mem_cons.2 ⟨fun h => absurd h ho, ?_⟩⟩
          · rwa [List.countP_cons_of_neg (by simpa using ho)]
          · rwa [List.getLast?_cons_cons]

/-! ### Calls of the marker's name -/

/-- Line `i` is code and calls the function with the marker's name. -/
def CallsMarker (ls : List (List Char)) (i : Fin ls.length) : Prop :=
  IsCode ls i ∧ ∃ s, ls.get i = callStart ++ (markerName.toList ++ s) ∧
    ∀ c t, s = c :: t → isIdentifierChar c = false

/-- The lines that call the marker's function are those whose operation has its name. -/
theorem callsMarker_iff {ls : List (List Char)} {i : Fin ls.length} :
    CallsMarker ls i ↔ ∃ o, operationAt ls i = some o ∧ o.name = markerName := by
  simp only [operationAt_eq_some_iff, read?_eq_some_iff]
  constructor
  · rintro ⟨hi, s, hl, hs⟩
    have hname : isIdentifier markerName.toList = true := by decide +kernel
    refine ⟨_, ⟨hi, ⟨markerName.toList, argument? s⟩, ⟨hname, s, hl, hs, rfl⟩, rfl⟩, ?_⟩
    exact String.ofList_toList
  · rintro ⟨_, ⟨hi, c, ⟨-, s, hl, hs, -⟩, rfl⟩, hn⟩
    refine ⟨hi, s, ?_, hs⟩
    rw [hl, ← hn]
    show _ = callStart ++ ((String.ofList c.name).toList ++ s)
    rw [String.toList_ofList]

/-! ### Scripts -/

/-- Among the operations that a routine means, the marker's name is used once and last unless a call
of it has an operation after it, be it of a call or the marker itself. -/
theorem markerLast_meaning_iff (ls : List (List Char)) :
    MarkerLast (meaning ls) ↔ ∀ i : Fin ls.length, CallsMarker ls i →
      ¬ HasLogic ls ∧ ∀ j > i, ¬ (IsCode ls j ∧ IsCall (ls.get j)) := by
  have hcalls : ((List.finRange ls.length).filterMap (operationAt ls)).Pairwise
        (fun o _ => o.name ≠ markerName) ↔
      ∀ i, CallsMarker ls i → ∀ j > i, ¬ (IsCode ls j ∧ IsCall (ls.get j)) := by
    rw [List.pairwise_filterMap, ← List.ofFn_id, List.pairwise_ofFn]
    simp only [callsMarker_iff, ← operationAt_eq_none_iff, Option.eq_none_iff_forall_ne_some, id]
    exact ⟨fun h i ⟨o, ho, hn⟩ j hj o' ho' => h hj o ho o' ho' hn,
      fun h i j hj o ho o' ho' hn => h i ⟨o, ho, hn⟩ j hj o' ho'⟩
  have hmarker : (∀ o ∈ (List.finRange ls.length).filterMap (operationAt ls),
        ∀ m ∈ if HasLogic ls then [Operation.additionalFixes] else [], o.name ≠ markerName) ↔
      ∀ i, CallsMarker ls i → ¬ HasLogic ls := by
    simp only [callsMarker_iff, List.mem_filterMap, List.mem_finRange, true_and]
    constructor
    · rintro h i ⟨o, ho, hn⟩ hlogic
      exact h o ⟨i, ho⟩ Operation.additionalFixes (by simp [hlogic]) hn
    · rintro h o ⟨i, ho⟩ m hm hn
      rw [if_neg (h i ⟨o, ho, hn⟩)] at hm
      exact absurd hm List.not_mem_nil
  have hsingle : (if HasLogic ls then [Operation.additionalFixes] else []).Pairwise
      (fun o _ => o.name ≠ markerName) := by
    split_ifs
    · exact List.pairwise_singleton _ _
    · exact .nil
  rw [markerLast_iff_pairwise, meaning, List.pairwise_append, hcalls, hmarker]
  exact ⟨fun h i hi => ⟨h.2.2 i hi, h.1 i hi⟩,
    fun h => ⟨fun i hi => (h i hi).2, hsingle, fun i hi => (h i hi).1⟩⟩

/-- **The marker's name is used once and last in a script if and only if no line calls it that has
another call below, and none at all in a script with other logic.** -/
theorem markerLast_operations_iff (source : String) :
    MarkerLast (operations source) ↔ ∀ i, CallsMarker (routine source.toList) i →
      ¬ HasLogic (routine source.toList) ∧
        ∀ j > i, ¬ (IsCode (routine source.toList) j ∧
          IsCall ((routine source.toList).get j)) := by
  rw [operations, body_eq_routine, collect_readings]
  exact markerLast_meaning_iff _

/-- Some scripts call the marker's name in front of another function. -/
theorem not_forall_markerLast_operations : ¬ ∀ source, MarkerLast (operations source) := by
  intro h
  have hops : operations
      "def main():\n    util.additional_fixes()\n    util.disable_esync()\n" =
      [.additionalFixes, .bare "disable_esync"] := by decide +kernel
  have hlast := h "def main():\n    util.additional_fixes()\n    util.disable_esync()\n"
  rw [hops, markerLast_iff_pairwise, List.pairwise_cons] at hlast
  exact hlast.1 _ (List.mem_singleton_self _) rfl

end GameFixes.Script
