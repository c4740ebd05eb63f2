import GameFixes.Proofs.Json.Record

/-!
# Values that say something throughout

A value says nothing if it is null, or an array or an object with nothing in it. `Value.IsFilled`
says of a value that neither it nor anything inside it, at whatever depth, is such a value.

* `Value.isFilled_items`, `Value.isFilled_fields`: arrays and objects are filled if there is
  something in them, and only what is filled;
* `AreFilled`: fields of a record of which those that are not left out are filled.
-/

namespace GameFixes.Json

/-- A value stands inside another one: as an item, as the value of a member, or deeper. -/
inductive Value.IsInside (w : Value) : Value → Prop
  | item {l : List Value} (h : w ∈ l) : IsInside w (.array l)
  | member {k : Option String} {l : List (Option String × Value)} (h : (k, w) ∈ l) :
      IsInside w (.object l)
  | inItem {v : Value} {l : List Value} (h : v ∈ l) (hw : IsInside w v) : IsInside w (.array l)
  | inMember {k : Option String} {v : Value} {l : List (Option String × Value)} (h : (k, v) ∈ l)
      (hw : IsInside w v) : IsInside w (.object l)

/-- A value says something: it is not null, and neither an empty array nor an empty object. -/
def Value.Speaks (v : Value) : Prop := v ≠ .null ∧ v ≠ .array [] ∧ v ≠ .object []

/-- A value and all values inside it say something. -/
structure Value.IsFilled (v : Value) : Prop where
  speaks : v.Speaks
  inside : ∀ w : Value, w.IsInside v → w.Speaks

namespace Value

theorem isFilled_text (s : String) : (ofOutline (.text s)).IsFilled :=
  ⟨⟨nofun, nofun, nofun⟩, nofun⟩

theorem isFilled_flag (b : Bool) : (ofOutline (.flag b)).IsFilled :=
  ⟨⟨nofun, nofun, nofun⟩, nofun⟩

/-- What is inside an object says something if the values of its members are filled. -/
theorem speaks_of_isInside_object {l : List (Option String × Value)}
    (h : ∀ m ∈ l, m.2.IsFilled) {w : Value} (hw : w.IsInside (.object l)) : w.Speaks := by
  cases hw with
  | member hm => exact (h _ hm).speaks
  | inMember hm hw => exact (h _ hm).inside w hw

theorem isFilled_array {l : List Value} (hne : l ≠ []) (h : ∀ v ∈ l, v.IsFilled) :
    (array l).IsFilled := by
  refine ⟨⟨nofun, fun e => hne (array.inj e), nofun⟩, fun w hw => ?_⟩
  cases hw with
  | item hm => exact (h _ hm).speaks
  | inItem hm hw => exact (h _ hm).inside w hw

theorem isFilled_object {l : List (Option String × Value)} (hne : l ≠ [])
    (h : ∀ m ∈ l, m.2.IsFilled) : (object l).IsFilled :=
  ⟨⟨nofun, nofun, fun e => hne (object.inj e)⟩, fun _ => speaks_of_isInside_object h⟩

/-- An array is filled if it has items and all of them are. -/
theorem isFilled_items {l : List Outline} (hne : l ≠ []) (h : ∀ o ∈ l, (ofOutline o).IsFilled) :
    (ofOutline (.items l)).IsFilled := by
  rw [ofOutline, ofOutlines_eq_map]
  refine isFilled_array (by simpa using hne) fun v hv => ?_
  obtain ⟨o, ho, rfl⟩ := List.mem_map.1 hv
  exact h o ho

/-- The members of an object are filled if what it is made from is. -/
theorem isFilled_of_mem_ofFields {l : List (String × Outline)}
    (h : ∀ p ∈ l, (ofOutline p.2).IsFilled) : ∀ m ∈ ofFields l, m.2.IsFilled := by
  intro m hm
  rw [ofFields_eq_map] at hm
  obtain ⟨p, hp, rfl⟩ := List.mem_map.1 hm
  exact h p hp

/-- An object is filled if it has fields and all of them are. -/
theorem isFilled_fields {l : List (String × Outline)} (hne : l ≠ [])
    (h : ∀ p ∈ l, (ofOutline p.2).IsFilled) : (ofOutline (.fields l)).IsFilled :=
  isFilled_object (by simpa [ofFields_eq_map] using hne) (isFilled_of_mem_ofFields h)

end Value

/-! ### Fields that may be left out -/

/-- All that fields say, as far as they have a value, is filled. -/
def AreFilled (l : List (String × Option Outline)) : Prop :=
  ∀ p ∈ l, ∀ o, p.2 = some o → (Value.ofOutline o).IsFilled

theorem AreFilled.present {l : List (String × Option Outline)} (h : AreFilled l) :
    ∀ p ∈ present l, (Value.ofOutline p.2).IsFilled :=
  fun _ hp => h _ (mem_of_mem_present hp) _ rfl

theorem present_eq_nil_iff {l : List (String × Option Outline)} :
    present l = [] ↔ ∀ p ∈ l, p.2 = none := by
  simp [Json.present]

theorem isFilled_of_map_eq_some {α : Type} {f : α → Outline}
    (h : ∀ a, (Value.ofOutline (f a)).IsFilled) {x : Option α} {o : Outline}
    (ho : x.map f = some o) : (Value.ofOutline o).IsFilled := by
  obtain ⟨a, -, rfl⟩ := Option.map_eq_some_iff.1 ho
  exact h a

theorem isFilled_of_sparse_eq_some {isEmpty : Bool} {o o' : Outline}
    (h : isEmpty = false → (Value.ofOutline o).IsFilled) (ho : sparse isEmpty o = some o') :
    (Value.ofOutline o').IsFilled := by
  cases isEmpty with
  | false => exact Option.some.inj ho ▸ h rfl
  | true => cases ho

end GameFixes.Json
