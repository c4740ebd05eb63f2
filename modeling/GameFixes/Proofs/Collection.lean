import GameFixes.Collection.TextMap
import Mathlib.Data.List.Induction
import Mathlib.Data.List.Sort

/-!
# Maps, last elements and first occurrences

* `TextMap.ext_get?`: a map is known by what it binds its keys to;
* `TextMap.ofList_entries`: a map is the map of its bindings;
* `TextSet.mem_ofList`: the set of a list has its elements;
* `IsLast p l a`: `a` is the last element of `l` with the property `p`; it is what the elements with
  the property end with (`isLast_iff_getLast?_filter`), and it makes the choice that a list of
  choices ends with (`getLast?_filterMap_eq_some_iff`);
* `exists_first`: the first element with a property, and the elements before it;
* `forall_mem_iff_of_forall₂`: what holds of all elements of one list and of those that correspond,
  and `exists_forall₂`: something corresponds to each;
* `distinct l`: the elements of a list in the order in which they first occur;
* `mergeSort_eq_of_perm`: what sorting makes of a list, known from any list in strict order;
* `mergeSort_filterMap_find?`: rows that are found by their numbers and sorted by them.
-/

namespace GameFixes

namespace TextMap

variable {α : Type}

theorem mem_of_lookup_eq_some {k : String} {v : α} {l : List (String × α)}
    (h : lookup k l = some v) : (k, v) ∈ l := by
  induction l with
  | nil => cases h
  | cons e l ih =>
    rw [lookup_cons] at h
    by_cases hk : e.1 = k
    · rw [if_pos hk] at h
      obtain rfl := Option.some.inj h
      exact hk ▸ List.mem_cons_self
    · rw [if_neg hk] at h
      exact List.mem_cons_of_mem _ (ih h)

theorem lookup_eq_some_of_mem {k : String} {v : α} {l : List (String × α)}
    (hl : l.Pairwise fun a b => a.1 < b.1) (h : (k, v) ∈ l) : lookup k l = some v := by
  induction l with
  | nil => cases h
  | cons e l ih =>
    obtain ⟨he, hl⟩ := List.pairwise_cons.1 hl
    rw [lookup_cons]
    rcases List.mem_cons.1 h with rfl | h
    · rw [if_pos rfl]
    · have hne : e.1 ≠ k := fun hk => String.lt_irrefl k (by simpa [hk] using he (k, v) h)
      rw [if_neg hne, ih hl h]

/-- The bindings of a map are what it binds its keys to. -/
theorem mem_entries_iff {m : TextMap α} {k : String} {v : α} :
    (k, v) ∈ m.entries ↔ m.get? k = some v :=
  ⟨lookup_eq_some_of_mem m.ascending, mem_of_lookup_eq_some⟩

/-- Two maps that bind their keys alike are equal. -/
theorem ext_get? {m n : TextMap α} (h : ∀ k, m.get? k = n.get? k) : m = n := by
  have irrefl : Std.Irrefl fun a b : String × α => a.1 < b.1 := ⟨fun a => String.lt_irrefl a.1⟩
  refine ext (m.ascending.eq_of_mem_iff n.ascending fun (k, v) => ?_)
  rw [mem_entries_iff, mem_entries_iff, h]

theorem mem_keys_iff {m : TextMap α} {k : String} : k ∈ m.keys ↔ ∃ v, m.get? k = some v := by
  unfold keys
  rw [List.mem_map]
  constructor
  · rintro ⟨⟨k', v⟩, he, rfl⟩
    exact ⟨v, mem_entries_iff.1 he⟩
  · rintro ⟨v, hv⟩
    exact ⟨(k, v), mem_entries_iff.2 hv, rfl⟩

theorem contains_iff_mem_keys {m : TextMap α} {k : String} : m.contains k = true ↔ k ∈ m.keys := by
  simp [contains, keys]

theorem keys_pairwise (m : TextMap α) : m.keys.Pairwise (· < ·) := List.pairwise_map.2 m.ascending

theorem isEmpty_iff {m : TextMap α} : m.isEmpty = true ↔ m = ∅ := by
  rw [isEmpty, List.isEmpty_iff]
  exact ⟨fun h => ext h, fun h => h ▸ rfl⟩

theorem insert_ne_empty (m : TextMap α) (k : String) (v : α) : m.insert k v ≠ ∅ := by
  intro h
  have hget := get?_insert m k k v
  rw [h, if_pos rfl] at hget
  cases hget

theorem alterList_of_last {k : String} {f : Option α → α} {l : List (String × α)}
    (h : ∀ e ∈ l, e.1 < k) : alterList k f l = l ++ [(k, f none)] := by
  induction l with
  | nil => rfl
  | cons e l ih =>
    obtain ⟨he, hl⟩ := List.forall_mem_cons.1 h
    have hne : k ≠ e.1 := fun hk => String.lt_irrefl k (by simp [hk] at he)
    rw [alterList, if_neg (String.lt_asymm he), if_neg hne, ih hl, List.cons_append]

/-- A list in ascending order of its keys is the list of its map's bindings. -/
theorem entries_ofList {l : List (String × α)} (h : l.Pairwise fun a b => a.1 < b.1) :
    (ofList l).entries = l := by
  induction l using List.reverseRecOn with
  | nil => rfl
  | append_singleton l e ih =>
    obtain ⟨hl, -, he⟩ := List.pairwise_append.1 h
    have hlast : ∀ e' ∈ l, e'.1 < e.1 := fun e' he' => he e' he' e (List.mem_singleton_self e)
    rw [ofList, List.foldl_append]
    change alterList e.1 _ (ofList l).entries = _
    rw [ih hl, alterList_of_last hlast]

theorem ofList_entries (m : TextMap α) : ofList m.entries = m := ext (entries_ofList m.ascending)

end TextMap

/-! ### Sets -/

theorem TextSet.mem_add {s : TextSet} {k j : String} :
    j ∈ (s.add k).toList ↔ j = k ∨ j ∈ s.toList := by
  unfold TextSet.toList TextSet.add
  rw [TextMap.mem_keys_iff, TextMap.mem_keys_iff, TextMap.get?_insert]
  split_ifs with h
  · simp [h]
  · simp [h]

theorem TextSet.ofList_concat (l : List String) (k : String) :
    TextSet.ofList (l ++ [k]) = (TextSet.ofList l).add k := by
  unfold TextSet.ofList
  rw [List.foldl_append]
  rfl

theorem TextSet.mem_ofList {l : List String} {k : String} :
    k ∈ (TextSet.ofList l).toList ↔ k ∈ l := by
  induction l using List.reverseRecOn with
  | nil => exact Iff.rfl
  | append_singleton l j ih => rw [TextSet.ofList_concat, TextSet.mem_add, ih, List.mem_append,
      List.mem_singleton, or_comm]

/-- Two sets with the same elements are equal. -/
theorem TextSet.ext_mem {s t : TextSet} (h : ∀ k, k ∈ s.toList ↔ k ∈ t.toList) : s = t := by
  refine TextMap.ext_get? fun k => Option.ext fun u => ?_
  have hmem : ∀ r : TextSet, r.get? k = some u ↔ k ∈ r.toList := fun r =>
    ⟨fun hget => TextMap.mem_keys_iff.2 ⟨u, hget⟩,
      fun hkey => (TextMap.mem_keys_iff.1 hkey).elim fun _ hget => hget⟩
  rw [hmem, hmem, h]

/-! ### Last elements -/

section Last

variable {α β : Type}

/-- `a` is the last element of `l` with the property `p`. -/
def IsLast (p : α → Prop) (l : List α) (a : α) : Prop :=
  ∃ before after, l = before ++ a :: after ∧ p a ∧ ∀ x ∈ after, ¬ p x

theorem IsLast.mem {p : α → Prop} {l : List α} {a : α} (h : IsLast p l a) : a ∈ l := by
  obtain ⟨before, after, rfl, -⟩ := h
  simp

theorem IsLast.prop {p : α → Prop} {l : List α} {a : α} (h : IsLast p l a) : p a := by
  obtain ⟨_, _, -, ha, -⟩ := h
  exact ha

/-- Some element has a property if and only if there is a last one that has it. -/
theorem exists_isLast_iff {p : α → Prop} {l : List α} :
    (∃ a, IsLast p l a) ↔ ∃ a ∈ l, p a := by
  constructor
  · rintro ⟨a, before, after, rfl, ha, -⟩
    exact ⟨a, by simp, ha⟩
  · intro h
    induction l with
    | nil => simp at h
    | cons b l ih =>
      by_cases hl : ∃ a ∈ l, p a
      · obtain ⟨a, before, after, rfl, ha, hafter⟩ := ih hl
        exact ⟨a, b :: before, after, rfl, ha, hafter⟩
      · rw [List.exists_mem_cons_iff, or_iff_left hl] at h
        exact ⟨b, [], l, rfl, h, fun x hx hp => hl ⟨x, hx, hp⟩⟩

/-- Where some element has a property, there is a first one that has it. -/
theorem exists_first {p : α → Prop} {l : List α} (h : ∃ a ∈ l, p a) :
    ∃ before a after, l = before ++ a :: after ∧ p a ∧ ∀ x ∈ before, ¬ p x := by
  classical
  obtain ⟨a, ha, hp⟩ := h
  obtain ⟨b, before, after, hbefore, hb, hl, -⟩ :=
    List.exists_of_eraseP (p := fun a => decide (p a)) ha (by simpa using hp)
  exact ⟨before, b, after, hl, by simpa using hb, by simpa using hbefore⟩

theorem IsLast.congr {p q : α → Prop} {l : List α} {a : α} (h : IsLast p l a)
    (hpq : ∀ x ∈ l, p x ↔ q x) : IsLast q l a := by
  obtain ⟨before, after, rfl, ha, hafter⟩ := h
  refine ⟨before, after, rfl, (hpq a (by simp)).1 ha, fun x hx hq => ?_⟩
  exact hafter x hx ((hpq x (by simp [hx])).2 hq)

/-- The last element with a property is the last of those that have it. -/
theorem isLast_iff_getLast?_filter {p : α → Prop} [DecidablePred p] {l : List α} {a : α} :
    IsLast p l a ↔ (l.filter p).getLast? = some a := by
  rw [List.getLast?_eq_some_iff]
  constructor
  · rintro ⟨before, after, rfl, ha, hafter⟩
    have hnil : after.filter p = [] := by simpa using hafter
    refine ⟨before.filter p, ?_⟩
    rw [List.filter_append, List.filter_cons_of_pos (by simpa using ha), hnil]
  · rintro ⟨kept, hl⟩
    obtain ⟨l₁, l₂, rfl, -, hl₂⟩ := List.filter_eq_append_iff.1 hl
    obtain ⟨before, after, rfl, -, ha, hafter⟩ := List.filter_eq_cons_iff.1 hl₂
    refine ⟨l₁ ++ before, after, by simp, by simpa using ha, ?_⟩
    simpa using hafter

theorem isLast_iff_of_filter_eq {p : α → Prop} [DecidablePred p] {l m : List α}
    (h : l.filter p = m.filter p) {a : α} : IsLast p l a ↔ IsLast p m a := by
  rw [isLast_iff_getLast?_filter, isLast_iff_getLast?_filter, h]

/-- What stands after the last element with a property has no part in it. -/
theorem isLast_append_iff {p : α → Prop} {l m : List α} {a : α}
    (hm : ∀ x ∈ m, ¬ p x) : IsLast p (l ++ m) a ↔ IsLast p l a := by
  constructor
  · rintro ⟨before, after, hl, hp, hafter⟩
    rcases List.append_eq_append_iff.1 hl with ⟨t, rfl, ht⟩ | ⟨t, rfl, ht⟩
    · exact absurd hp (hm a (by simp [ht]))
    · cases t with
      | nil => exact absurd hp (hm a (by simp [← (List.nil_append _ ▸ ht)]))
      | cons b t =>
        obtain ⟨rfl, rfl⟩ := List.cons.inj ht
        exact ⟨before, t, rfl, hp, fun x hx => hafter x (List.mem_append_left m hx)⟩
  · rintro ⟨before, after, rfl, hp, hafter⟩
    refine ⟨before, after ++ m, by simp, hp, fun x hx => ?_⟩
    exact (List.mem_append.1 hx).elim (hafter x) (hm x)

/-- The last element of a list of choices comes from the last element with such a choice. -/
theorem exists_isLast_of_filterMap {f : α → Option β} {p : β → Prop} {l : List α} {b : β}
    (h : IsLast p (l.filterMap f) b) :
    ∃ a, IsLast (fun a => ∃ b, f a = some b ∧ p b) l a ∧ f a = some b := by
  obtain ⟨before, after, hl, hb, hafter⟩ := h
  obtain ⟨l₁, l₂, rfl, -, hl₂⟩ := List.filterMap_eq_append_iff.1 hl
  obtain ⟨m₁, a, m₂, rfl, -, ha, rfl⟩ := List.filterMap_eq_cons_iff.1 hl₂
  refine ⟨a, ⟨l₁ ++ m₁, m₂, by simp, ⟨b, ha, hb⟩, ?_⟩, ha⟩
  rintro x hx ⟨c, hc, hp⟩
  exact hafter c (List.mem_filterMap.2 ⟨x, hx, hc⟩) hp

/-- The last elements of a list that is made element by element. -/
theorem exists_isLast_map_iff {f : α → β} {p q : β → Prop} {l : List α} :
    (∃ b, IsLast p (l.map f) b ∧ q b) ↔ ∃ a, IsLast (fun a => p (f a)) l a ∧ q (f a) := by
  constructor
  · rintro ⟨_, ⟨_, _, hl, hp, hafter⟩, hq⟩
    obtain ⟨before, _, rfl, -, hl⟩ := List.map_eq_append_iff.1 hl
    obtain ⟨a, after, rfl, rfl, rfl⟩ := List.map_eq_cons_iff.1 hl
    exact ⟨a, ⟨before, after, rfl, hp, fun x hx => hafter _ (List.mem_map_of_mem hx)⟩, hq⟩
  · rintro ⟨a, ⟨before, after, rfl, hp, hafter⟩, hq⟩
    refine ⟨f a, ⟨before.map f, after.map f, by simp, hp, ?_⟩, hq⟩
    simpa using hafter

/-- What a list of choices ends with is the last choice that was made. -/
theorem getLast?_filterMap_eq_some_iff {f : α → Option β} {l : List α} {b : β} :
    (l.filterMap f).getLast? = some b ↔
      ∃ before a after, l = before ++ a :: after ∧ f a = some b ∧ ∀ x ∈ after, f x = none := by
  rw [List.getLast?_filterMap, List.findSome?_eq_some_iff]
  constructor
  · rintro ⟨after, a, before, hl, ha, hafter⟩
    rw [List.reverse_eq_iff] at hl
    exact ⟨before.reverse, a, after.reverse, by simpa using hl, ha,
      fun x hx => hafter x (List.mem_reverse.1 hx)⟩
  · rintro ⟨before, a, after, rfl, ha, hafter⟩
    exact ⟨after.reverse, a, before.reverse, by simp, ha,
      fun x hx => hafter x (List.mem_reverse.1 hx)⟩

/-- If an element makes a choice exactly when it has a property, the last such element makes the
choice that a list ends with. -/
theorem getLast?_filterMap_eq_some_iff_isLast {f : α → Option β} {p : α → Prop}
    {r : α → β → Prop} {l : List α} (hf : ∀ a ∈ l, ∀ b, f a = some b ↔ p a ∧ r a b)
    (hp : ∀ a ∈ l, p a → ∃ b, r a b) {b : β} :
    (l.filterMap f).getLast? = some b ↔ ∃ a, IsLast p l a ∧ r a b := by
  have hnone : ∀ a ∈ l, f a = none ↔ ¬ p a := by
    intro a ha
    rw [Option.eq_none_iff_forall_ne_some]
    constructor
    · intro h hpa
      obtain ⟨b, hb⟩ := hp a ha hpa
      exact h b ((hf a ha b).2 ⟨hpa, hb⟩)
    · intro h b hb
      exact h ((hf a ha b).1 hb).1
  rw [getLast?_filterMap_eq_some_iff]
  constructor
  · rintro ⟨before, a, after, rfl, ha, hafter⟩
    obtain ⟨hpa, hr⟩ := (hf a (by simp) b).1 ha
    exact ⟨a, ⟨before, after, rfl, hpa, fun x hx => (hnone x (by simp [hx])).1 (hafter x hx)⟩, hr⟩
  · rintro ⟨a, ⟨before, after, rfl, hpa, hafter⟩, hr⟩
    exact ⟨before, a, after, rfl, (hf a (by simp) b).2 ⟨hpa, hr⟩,
      fun x hx => (hnone x (by simp [hx])).2 (hafter x hx)⟩

end Last

/-! ### Corresponding elements -/

/-- A property of elements that correspond holds for all on one side if it does on the other. -/
theorem forall_mem_iff_of_forall₂ {α β : Type} {r : α → β → Prop} {p : α → Prop} {q : β → Prop}
    {as : List α} {bs : List β} (h : List.Forall₂ r as bs)
    (hpq : ∀ a ∈ as, ∀ b, r a b → (p a ↔ q b)) : (∀ a ∈ as, p a) ↔ ∀ b ∈ bs, q b := by
  induction h with
  | nil => simp
  | cons hab _ ih =>
    rw [List.forall_mem_cons] at hpq
    rw [List.forall_mem_cons, List.forall_mem_cons, hpq.1 _ hab, ih hpq.2]

theorem forall₂_congr_of_mem {α β : Type} {r r' : α → β → Prop} {as : List α} {bs : List β}
    (h : ∀ a ∈ as, ∀ b, r a b ↔ r' a b) : List.Forall₂ r as bs ↔ List.Forall₂ r' as bs := by
  induction as generalizing bs with
  | nil => simp
  | cons a as ih =>
    rw [List.forall_mem_cons] at h
    simp only [List.forall₂_cons_left_iff, h.1, ih h.2]

/-- If something corresponds to each element, there is a list of that. -/
theorem exists_forall₂ {α β : Type} {r : α → β → Prop} {as : List α}
    (h : ∀ a ∈ as, ∃ b, r a b) : ∃ bs, List.Forall₂ r as bs := by
  induction as with
  | nil => exact ⟨[], .nil⟩
  | cons a as ih =>
    rw [List.forall_mem_cons] at h
    obtain ⟨b, hb⟩ := h.1
    obtain ⟨bs, hbs⟩ := ih h.2
    exact ⟨b :: bs, .cons hb hbs⟩

/-! ### First occurrences -/

section First

variable {α : Type} [DecidableEq α]

/-- The distinct elements of a list, in the order in which they first occur. -/
def distinct (l : List α) : List α := l.eraseDups

@[simp] theorem mem_distinct {l : List α} {a : α} : a ∈ distinct l ↔ a ∈ l := List.mem_eraseDups

/-- The distinct elements of `m` that `l` does not have. -/
def fresh (l m : List α) : List α := distinct (m.removeAll l)

theorem distinct_append (l m : List α) : distinct (l ++ m) = distinct l ++ fresh l m :=
  List.eraseDups_append

theorem fresh_append (l m n : List α) : fresh l (m ++ n) = fresh l m ++ fresh (l ++ m) n := by
  have h := distinct_append (l ++ m) n
  rw [List.append_assoc, distinct_append, distinct_append l m, List.append_assoc] at h
  exact List.append_cancel_left h

theorem fresh_eq_nil {l m : List α} (h : ∀ a ∈ m, a ∈ l) : fresh l m = [] := by
  have hremove : m.removeAll l = [] := by simpa [List.removeAll] using h
  rw [fresh, hremove]
  rfl

theorem fresh_singleton (l : List α) (a : α) : fresh l [a] = if a ∈ l then [] else [a] := by
  by_cases h : a ∈ l
  · rw [if_pos h, fresh_eq_nil (by simpa using h)]
  · simp [fresh, distinct, List.removeAll, List.eraseDups_cons, h]

theorem distinct_append_of_subset {l m : List α} (h : ∀ a ∈ m, a ∈ l) :
    distinct (l ++ m) = distinct l := by
  rw [distinct_append, fresh_eq_nil h, List.append_nil]

theorem distinct_concat (l : List α) (a : α) :
    distinct (l ++ [a]) = if a ∈ l then distinct l else distinct l ++ [a] := by
  rw [distinct_append, fresh_singleton]
  split_ifs with h
  · rw [List.append_nil]
  · rfl

theorem fresh_concat (l m : List α) (a : α) :
    fresh l (m ++ [a]) = if a ∈ l ++ m then fresh l m else fresh l m ++ [a] := by
  rw [fresh_append, fresh_singleton]
  split_ifs with h
  · rw [List.append_nil]
  · rfl

theorem pairwise_idxOf_distinct (l : List α) :
    (distinct l).Pairwise fun a b => l.idxOf a < l.idxOf b := by
  induction l using List.reverseRecOn with
  | nil => exact .nil
  | append_singleton l a ih =>
    have hl : (distinct l).Pairwise fun b c => (l ++ [a]).idxOf b < (l ++ [a]).idxOf c :=
      ih.imp_of_mem fun hb hc h => by
        rwa [List.idxOf_append_of_mem (mem_distinct.1 hb),
          List.idxOf_append_of_mem (mem_distinct.1 hc)]
    rw [distinct_concat]
    by_cases ha : a ∈ l
    · rwa [if_pos ha]
    · rw [if_neg ha, List.pairwise_append]
      refine ⟨hl, List.pairwise_singleton _ _, fun b hb c hc => ?_⟩
      obtain rfl := List.mem_singleton.1 hc
      have hb := mem_distinct.1 hb
      rw [List.idxOf_append_of_mem hb, List.idxOf_append_of_notMem ha]
      exact Nat.lt_add_right _ (List.idxOf_lt_length_of_mem hb)

theorem nodup_distinct (l : List α) : (distinct l).Nodup :=
  (pairwise_idxOf_distinct l).imp fun h hab => (hab ▸ h).false

end First

/-! ### Finding and sorting -/

/-- If two values tell elements apart, one of them does so where the other is the same. -/
theorem nodup_map_filter {α β γ : Type} [DecidableEq γ] {l : List α} (hl : l.Nodup) {f : α → β}
    {g : α → γ} (hfg : ∀ a b, f a = f b → g a = g b → a = b) (c : γ) :
    ((l.filter (g · = c)).map f).Nodup := by
  refine (hl.filter _).map_on fun a ha b hb hab => hfg a b hab ?_
  simp only [List.mem_filter, decide_eq_true_iff] at ha hb
  rw [ha.2, hb.2]

/-- The image of an element is found by what only it fulfils. -/
theorem find?_map_eq_some {α β : Type} {l : List α} {f : α → β} {p : β → Bool} {a : α}
    (ha : a ∈ l) (hp : ∀ b ∈ l, p (f b) = true ↔ b = a) : (l.map f).find? p = some (f a) := by
  have hfind : l.find? (p ∘ f) = some a := by
    cases h : l.find? (p ∘ f) with
    | none => exact absurd ((hp a ha).2 rfl) (List.find?_eq_none.1 h a ha)
    | some b =>
      have hb := List.find?_some h
      rw [(hp b (List.mem_of_find?_eq_some h)).1 hb]
  rw [List.find?_map, hfind, Option.map_some]

/-- Elements in strictly ascending order are what any order of them is sorted to. -/
theorem mergeSort_eq_of_perm {α : Type} {f : α → Int} {l l' : List α} (hp : l.Perm l')
    (hs : l'.Pairwise fun a b => f a < f b) : l.mergeSort (fun a b => f a ≤ f b) = l' := by
  have hnd : (l'.map f).Nodup := List.pairwise_map.2 (hs.imp ne_of_lt)
  have hsorted : (l.mergeSort fun a b => f a ≤ f b).Pairwise fun a b => decide (f a ≤ f b) = true :=
    List.pairwise_mergeSort
      (fun _ _ _ hab hbc =>
        decide_eq_true ((of_decide_eq_true hab).trans (of_decide_eq_true hbc)))
      (fun a b => by simpa using le_total (f a) (f b)) l
  have hperm := (List.mergeSort_perm l fun a b => f a ≤ f b).trans hp
  refine List.Perm.eq_of_pairwise (fun a b ha hb hab hba => ?_) hsorted
    (hs.imp fun h => decide_eq_true h.le) hperm
  exact List.inj_on_of_nodup_map hnd (hperm.mem_iff.1 ha) hb
    (le_antisymm (of_decide_eq_true hab) (of_decide_eq_true hba))

section Numbers

variable {α : Type} {f : α → Int} {rows : List α}

/-- Numbers in ascending order leave no choice of how to list rows. -/
theorem eq_of_perm_of_ascending {rows' : List α} (hp : rows.Perm rows')
    (hrows : rows.Pairwise fun a b => f a < f b)
    (hrows' : rows'.Pairwise fun a b => f a < f b) : rows = rows' :=
  hp.eq_of_pairwise (fun _ _ _ _ hab hba => absurd hab hba.not_gt) hrows hrows'

/-- The row with a number is found by it. -/
theorem find?_number_eq_some_iff (hrows : rows.Pairwise fun a b => f a < f b) {n : Int} {a : α} :
    rows.find? (f · = n) = some a ↔ a ∈ rows ∧ f a = n := by
  constructor
  · intro h
    exact ⟨List.mem_of_find?_eq_some h, by simpa using List.find?_some h⟩
  · rintro ⟨ha, rfl⟩
    have hnd : (rows.map f).Nodup := List.pairwise_map.2 (hrows.imp ne_of_lt)
    cases h : rows.find? (f · = f a) with
    | none => exact absurd (List.find?_eq_none.1 h a ha) (by simp)
    | some b =>
      have hb : f b = f a := by simpa using List.find?_some h
      rw [List.inj_on_of_nodup_map hnd (List.mem_of_find?_eq_some h) ha hb]

/-- Rows in ascending order, found by some numbers and sorted by these, are the rows that have
such a number. -/
theorem mergeSort_filterMap_find? (hrows : rows.Pairwise fun a b => f a < f b) {numbers : List Int}
    (hn : numbers.Nodup) :
    (numbers.filterMap fun n => rows.find? (f · = n)).mergeSort (fun a b => f a ≤ f b) =
      rows.filter (f · ∈ numbers) := by
  have hfind : ∀ n a, a ∈ rows.find? (f · = n) ↔ a ∈ rows ∧ f a = n :=
    fun n a => find?_number_eq_some_iff hrows
  have hnd : rows.Nodup := hrows.imp fun h hab => (hab ▸ h).false
  have hfound : (numbers.filterMap fun n => rows.find? (f · = n)).Nodup :=
    hn.filterMap fun n n' a ha ha' => ((hfind n a).1 ha).2.symm.trans ((hfind n' a).1 ha').2
  refine mergeSort_eq_of_perm ?_ (hrows.filter _)
  rw [List.perm_ext_iff_of_nodup hfound (hnd.filter _)]
  intro a
  rw [List.mem_filterMap, List.mem_filter, decide_eq_true_iff]
  constructor
  · rintro ⟨n, hn, ha⟩
    obtain ⟨hrow, rfl⟩ := (hfind n a).1 ha
    exact ⟨hrow, hn⟩
  · rintro ⟨hrow, hn⟩
    exact ⟨f a, hn, (hfind _ _).2 ⟨hrow, rfl⟩⟩

end Numbers

end GameFixes
