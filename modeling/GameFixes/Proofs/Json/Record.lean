import GameFixes.Json.Record
import GameFixes.Proofs.Collection
import Mathlib.Data.List.Nodup

/-!
# Decoding records that were written

A record is written as an object of the fields that have a value. Decoding the object gives each
field its value again, and none to the fields that were left out.

* `present l`: the fields of `l` that have a value, as they are written;
* `record?_present`: the fields of such a record, decoded;
* `optional_map`, `defaulted_sparse`: what the two ways to leave a field out are read as.

An object that comes from elsewhere may have other members, and all in any order:

* `FieldIs`: what a field of an object says, which has one name or several;
* `fields_eq_some_iff`: the fields of an object are decoded to what they say;
* `record?_congr`: other members, and the order of all, do not count.
-/

namespace GameFixes

/-- What is made of each element of a list, if something is made of every one. -/
theorem mapM_eq_some_iff {α β : Type} {f : α → Option β} {l : List α} {m : List β} :
    l.mapM f = some m ↔ List.Forall₂ (fun a b => f a = some b) l m := by
  induction l generalizing m with
  | nil => simp [eq_comm]
  | cons a l ih =>
    simp [List.forall₂_cons_left_iff, Option.bind_eq_some_iff, ← ih, eq_comm (a := m)]

theorem mapM_eq_some_map {α β : Type} {f : α → Option β} {g : α → β} {l : List α}
    (h : ∀ a ∈ l, f a = some (g a)) : l.mapM f = some (l.map g) :=
  mapM_eq_some_iff.2 (List.forall₂_map_right_iff.2 (List.forall₂_same.2 h))

namespace Json

theorem Value.ofOutlines_eq_map (l : List Outline) :
    Value.ofOutlines l = l.map Value.ofOutline := by
  induction l with
  | nil => rfl
  | cons o l ih => rw [Value.ofOutlines, ih, List.map_cons]

theorem Value.ofFields_eq_map (l : List (String × Outline)) :
    Value.ofFields l = l.map fun p => (some p.1, Value.ofOutline p.2) := by
  induction l with
  | nil => rfl
  | cons p l ih => rw [Value.ofFields, ih, List.map_cons]

theorem Value.ofOutline_ne_null (o : Outline) : Value.ofOutline o ≠ .null := by
  cases o <;> exact nofun

theorem keys?_ofFields (l : List (String × Outline)) :
    keys? (Value.ofFields l) = some (l.map fun p => (p.1, Value.ofOutline p.2)) := by
  rw [Value.ofFields_eq_map, keys?, List.mapM_map]
  exact mapM_eq_some_map fun p _ => rfl

/-! ### Fields that may be left out -/

/-- The fields that have a value. -/
def present (l : List (String × Option Outline)) : List (String × Outline) :=
  l.filterMap fun p => p.2.map (p.1, ·)

@[simp] theorem present_nil : present [] = [] := rfl

@[simp] theorem present_cons (name : String) (o : Option Outline)
    (l : List (String × Option Outline)) :
    present ((name, o) :: l) = (o.map (name, ·)).toList ++ present l := by
  cases o <;> rfl

theorem mem_of_mem_present {l : List (String × Option Outline)} {name : String} {o : Outline}
    (h : (name, o) ∈ present l) : (name, some o) ∈ l := by
  obtain ⟨⟨name', o'⟩, hl, ho⟩ := List.mem_filterMap.1 h
  obtain ⟨o', rfl, ho⟩ := Option.map_eq_some_iff.1 ho
  cases ho
  exact hl

theorem filter_present {l : List (String × Option Outline)} (h : (l.map Prod.fst).Nodup)
    {name : String} {o : Option Outline} (hp : (name, o) ∈ l) :
    (present l).filter (·.1 ∈ [name]) = (o.map (name, ·)).toList := by
  induction l with
  | nil => cases hp
  | cons p l ih =>
    obtain ⟨name', o'⟩ := p
    obtain ⟨hname, hl⟩ := List.nodup_cons.1 h
    rw [present_cons, List.filter_append]
    rcases List.mem_cons.1 hp with hp | hp
    · obtain ⟨rfl, rfl⟩ := Prod.mk.inj hp
      have hrest : (present l).filter (·.1 ∈ [name]) = [] := by
        refine List.filter_eq_nil_iff.2 fun q hq hname' => hname ?_
        rw [decide_eq_true_iff, List.mem_singleton] at hname'
        exact List.mem_map.2 ⟨_, mem_of_mem_present hq, hname'⟩
      rw [hrest, List.append_nil]
      cases o <;> simp
    · have hne : name' ≠ name := fun e => hname (List.mem_map.2 ⟨_, hp, e.symm⟩)
      rw [ih hl hp]
      cases o' <;> simp [hne]

/-- A field is decoded to the value that it was written with. -/
theorem member?_present {l : List (String × Option Outline)} (h : (l.map Prod.fst).Nodup)
    {name : String} {o : Option Outline} (hp : (name, o) ∈ l) :
    member? [name] ((present l).map fun p => (p.1, Value.ofOutline p.2)) =
      some (o.map Value.ofOutline) := by
  simp only [member?, List.filter_map, Function.comp_def, filter_present h hp]
  cases o <;> rfl

/-- A record that was written has its fields again. -/
theorem record?_present {l : List (String × Option Outline)} (h : (l.map Prod.fst).Nodup) :
    (Value.ofOutline (.fields (present l))).record? (l.map fun p => [p.1]) =
      some (l.map fun p => p.2.map Value.ofOutline) := by
  rw [Value.ofOutline, Value.record?, keys?_ofFields]
  change (l.map fun p => [p.1]).mapM _ = _
  rw [List.mapM_map]
  exact mapM_eq_some_map fun p hp => member?_present h hp

/-- The outline of something, unless that is empty. -/
def sparse (isEmpty : Bool) (o : Outline) : Option Outline := if isEmpty then none else some o

section Decode

variable {α : Type} {decode : Value → Option α} {outline : α → Outline}
  (h : ∀ a, decode (Value.ofOutline (outline a)) = some a)
include h

theorem optional_map (x : Option α) :
    optional decode ((x.map outline).map Value.ofOutline) = some x := by
  cases x with
  | none => rfl
  | some a =>
    rw [Option.map_some, Option.map_some, optional]
    · rw [h, Option.map_some]
    · exact fun ha => Value.ofOutline_ne_null _ ha

theorem defaulted_sparse {isEmpty : α → Bool} {e : α} (he : ∀ a, isEmpty a = true → a = e) (a : α) :
    defaulted e decode ((sparse (isEmpty a) (outline a)).map Value.ofOutline) = some a := by
  unfold sparse
  split_ifs with ha
  · rw [he a ha]
    rfl
  · exact h a

theorem items?_map (l : List α) :
    Value.items? decode (Value.ofOutline (.items (l.map outline))) = some l := by
  rw [Value.ofOutline, Value.items?, Value.ofOutlines_eq_map, List.mapM_map, List.mapM_map]
  exact (mapM_eq_some_map (g := id) fun a _ => h a).trans (by rw [List.map_id])

end Decode

/-! ### Fields of an object -/

/-- The members of an object, by their names. -/
abbrev Members := List (String × Value)

/-- The object with some members. -/
def objectOf (m : Members) : Value := .object (m.map fun p => (some p.1, p.2))

/-- What a field of an object says, under whichever of its names. -/
inductive FieldIs (m : Members) (names : List String) : Option String → Prop
  | text {name s : String} (hname : name ∈ names) (h : (name, .string (some s)) ∈ m) :
      FieldIs m names (some s)
  /-- A field that is missing or null says nothing. -/
  | nothing (h : ∀ name ∈ names, ∀ v, (name, v) ∈ m → v = .null) : FieldIs m names none

/-- What stands in a field. -/
def field (m : Members) (names : List String) : Option Value :=
  (m.filter (·.1 ∈ names)).head?.map (·.2)

section Fields

variable {m m' : Members} {names : List String} {fields : List (List String)}

theorem keys?_objectOf (m : Members) : keys? (m.map fun p => (some p.1, p.2)) = some m := by
  rw [keys?, List.mapM_map]
  exact (mapM_eq_some_map (g := id) fun p _ => rfl).trans (by rw [List.map_id])

theorem fieldIs_some_iff {s : String} :
    FieldIs m names (some s) ↔ ∃ name ∈ names, (name, .string (some s)) ∈ m :=
  ⟨fun | .text hname h => ⟨_, hname, h⟩, fun ⟨_, hname, h⟩ => .text hname h⟩

theorem fieldIs_none_iff :
    FieldIs m names none ↔ ∀ name ∈ names, ∀ v, (name, v) ∈ m → v = .null :=
  ⟨fun | .nothing h => h, .nothing⟩

theorem field_eq_none_iff : field m names = none ↔ ∀ name ∈ names, ∀ v, (name, v) ∉ m := by
  rw [field, Option.map_eq_none_iff, List.head?_eq_none_iff, List.filter_eq_nil_iff]
  simp only [decide_eq_true_eq, Prod.forall]
  exact ⟨fun h name hname v hv => h name v hv hname, fun h name v hv hname => h name hname v hv⟩

section Once

variable (h : (m.filter (·.1 ∈ names)).length ≤ 1)
include h

theorem member?_of_length_le : member? names m = some (field m names) := by
  unfold member? field
  generalize m.filter (·.1 ∈ names) = l at h ⊢
  rcases l with _ | ⟨p, _ | ⟨q, l⟩⟩
  · rfl
  · rfl
  · simp at h

theorem field_eq_some_iff {v : Value} :
    field m names = some v ↔ ∃ name ∈ names, (name, v) ∈ m := by
  have hmem : (∃ name ∈ names, (name, v) ∈ m) ↔ ∃ p ∈ m.filter (·.1 ∈ names), p.2 = v := by
    simp [and_comm]
  rw [hmem, field]
  generalize m.filter (·.1 ∈ names) = l at h ⊢
  rcases l with _ | ⟨p, _ | ⟨q, l⟩⟩
  · simp
  · simp
  · simp at h

/-- A field that stands once is decoded to what it says. -/
theorem optional_field_eq_some_iff {text : Option String} :
    Json.optional Value.text? (field m names) = some text ↔ FieldIs m names text := by
  cases hfield : field m names with
  | none =>
    rw [field_eq_none_iff] at hfield
    cases text with
    | none => exact iff_of_true rfl (.nothing fun name hname v hv => absurd hv (hfield name hname v))
    | some s => exact iff_of_false nofun fun | .text hname hv => hfield _ hname _ hv
  | some v =>
    have hmem (w : Value) : (∃ name ∈ names, (name, w) ∈ m) ↔ v = w := by
      rw [← field_eq_some_iff h, hfield, Option.some.injEq]
    cases text with
    | none =>
      have hnull : FieldIs m names none ↔ v = .null := by
        rw [fieldIs_none_iff]
        constructor
        · intro hnone
          obtain ⟨name, hname, hv⟩ := (hmem v).2 rfl
          exact hnone name hname v hv
        · rintro rfl name hname w hw
          exact ((hmem w).1 ⟨name, hname, hw⟩).symm
      rw [hnull]
      cases v <;> simp [Json.optional, Value.text?]
    | some s =>
      rw [fieldIs_some_iff, hmem]
      cases v <;> simp [Json.optional, Value.text?]

/-- A field that stands once says one thing at most. -/
theorem FieldIs.iff_eq {text text' : Option String} (ht : FieldIs m names text) :
    FieldIs m names text' ↔ text = text' := by
  rw [← optional_field_eq_some_iff h] at ht ⊢
  rw [ht, Option.some.injEq]

/-- A field that stands once says something unless it is neither a text nor null. -/
theorem exists_fieldIs_iff : (∃ text, FieldIs m names text) ↔
    ∀ name ∈ names, ∀ v, (name, v) ∈ m → v = .null ∨ ∃ s, v = .string (some s) := by
  constructor
  · rintro ⟨_, ⟨hname', hs⟩ | hnull⟩ name hname v hv
    · have htext := (field_eq_some_iff h).2 ⟨_, hname', hs⟩
      have hfield := (field_eq_some_iff h).2 ⟨name, hname, hv⟩
      exact .inr ⟨_, Option.some.inj (hfield.symm.trans htext)⟩
    · exact .inl (hnull name hname v hv)
  · intro hvalues
    by_cases htext : ∃ s, FieldIs m names (some s)
    · obtain ⟨s, hs⟩ := htext
      exact ⟨some s, hs⟩
    · refine ⟨none, .nothing fun name hname v hv => ?_⟩
      rcases hvalues name hname v hv with hnull | ⟨s, rfl⟩
      · exact hnull
      · exact absurd ⟨s, .text hname hv⟩ htext

end Once

/-- The fields of an object are decoded to what they say. -/
theorem fields_eq_some_iff (h : ∀ names ∈ fields, (m.filter (·.1 ∈ names)).length ≤ 1)
    {texts : List (Option String)} :
    (do (← (objectOf m).record? fields).mapM (Json.optional Value.text?)) = some texts ↔
      List.Forall₂ (FieldIs m) fields texts := by
  have hrecord : (objectOf m).record? fields = some (fields.map (field m)) := by
    rw [objectOf, Value.record?, keys?_objectOf]
    exact mapM_eq_some_map fun names hnames => member?_of_length_le (h names hnames)
  rw [hrecord, Option.bind_eq_bind, Option.bind_some, List.mapM_map, mapM_eq_some_iff]
  exact forall₂_congr_of_mem fun names hnames _ => optional_field_eq_some_iff (h names hnames)

/-- Members that are no fields do not count, nor does the order of the members. -/
theorem record?_congr (h : (m.filter (·.1 ∈ fields.flatten)).Perm
    (m'.filter (·.1 ∈ fields.flatten))) :
    (objectOf m).record? fields = (objectOf m').record? fields := by
  have hmember : ∀ names ∈ fields, member? names m = member? names m' := by
    intro names hnames
    have hfilter (l : Members) : l.filter (·.1 ∈ names) =
        (l.filter (·.1 ∈ fields.flatten)).filter (·.1 ∈ names) := by
      rw [List.filter_filter]
      refine List.filter_congr fun p _ => ?_
      have hmem : p.1 ∈ names → p.1 ∈ fields.flatten := fun hp => List.mem_flatten_of_mem hnames hp
      simpa using hmem
    have hperm : (m.filter (·.1 ∈ names)).Perm (m'.filter (·.1 ∈ names)) := by
      rw [hfilter m, hfilter m']
      exact h.filter _
    unfold member?
    generalize m.filter (·.1 ∈ names) = l at hperm
    generalize m'.filter (·.1 ∈ names) = l' at hperm
    rcases l with _ | ⟨p, _ | ⟨q, l⟩⟩
    · rw [hperm.nil_eq]
    · rw [List.singleton_perm.1 hperm]
    · -- two members of one name are two in every order
      have hlength := hperm.length_eq
      rcases l' with _ | ⟨p', _ | ⟨q', l'⟩⟩
      · simp at hlength
      · simp at hlength
      · rfl
  rw [objectOf, objectOf, Value.record?, Value.record?, keys?_objectOf, keys?_objectOf]
  refine Option.ext fun values => ?_
  simp only [Option.bind_eq_bind, Option.bind_some, mapM_eq_some_iff]
  exact forall₂_congr_of_mem fun names hnames v => by rw [hmember names hnames]

end Fields

end Json

end GameFixes
