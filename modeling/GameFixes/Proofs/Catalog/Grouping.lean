import GameFixes.Catalog.Entry
import GameFixes.Proofs.Collection
import GameFixes.Reconcile
import Mathlib.Data.List.Induction

/-!
# Catalogs by identifier

A grouped catalog binds each identifier to the entries that carry it, in the order of the catalog.
So grouping forgets in which order a catalog lists entries of different identifiers, and nothing
else:

* `get?_group`: the entries under an identifier;
* `mem_keys_group_iff`: the identifiers are those of the entries;
* `values_group`: the groups, in the order of their identifiers;
* `Shuffled`: neighbours of different identifiers change places, any number of times;
* `shuffled_iff`: catalogs are the same but for that if they list the same under each identifier;
* `group_eq_group_iff`: and then they are grouped alike;
* `shuffled_values_group`: the groups, one after another, are the entries;
* `group_exact`: all of this together, and what it means for a reconciliation.
-/

namespace GameFixes.Catalog

/-! ### Groups -/

theorem group_concat (entries : List Entry) (e : Entry) :
    group (entries ++ [e]) = (group entries).alter e.catalogId fun l => l.getD [] ++ [e] := by
  unfold group
  rw [List.foldl_append]
  rfl

/-- Under an identifier stand the entries with it, in their order, if there are any. -/
theorem get?_group (entries : List Entry) (id : String) :
    (group entries).get? id =
      if entries.filter (·.catalogId = id) = [] then none
      else some (entries.filter (·.catalogId = id)) := by
  induction entries using List.reverseRecOn with
  | nil => rfl
  | append_singleton entries e ih =>
    rw [group_concat, TextMap.get?_alter, List.filter_append]
    by_cases he : id = e.catalogId
    · have hlast : [e].filter (·.catalogId = id) = [e] := by simp [he]
      have hgroup : ((group entries).get? id).getD [] = entries.filter (·.catalogId = id) := by
        rw [ih]
        split_ifs with h
        · rw [h, Option.getD_none]
        · rw [Option.getD_some]
      rw [if_pos he, ← he, hgroup, hlast, if_neg (by simp)]
    · have hlast : [e].filter (·.catalogId = id) = [] := by simp [Ne.symm he]
      rw [if_neg he, hlast, List.append_nil, ih]

theorem get?_group_eq_some_iff {entries : List Entry} {id : String} {es : List Entry} :
    (group entries).get? id = some es ↔ es ≠ [] ∧ entries.filter (·.catalogId = id) = es := by
  rw [get?_group]
  split_ifs with h
  · rw [h]
    constructor
    · rintro ⟨⟩
    · rintro ⟨hne, rfl⟩
      exact absurd rfl hne
  · constructor
    · rintro ⟨⟩
      exact ⟨h, rfl⟩
    · rintro ⟨-, rfl⟩
      rfl

/-- The identifiers of a grouped catalog are those of its entries. -/
theorem mem_keys_group_iff {entries : List Entry} {id : String} :
    id ∈ (group entries).keys ↔ ∃ e ∈ entries, e.catalogId = id := by
  simp only [TextMap.mem_keys_iff, get?_group_eq_some_iff]
  constructor
  · rintro ⟨es, hne, rfl⟩
    obtain ⟨e, he⟩ := List.exists_mem_of_ne_nil _ hne
    obtain ⟨hm, hid⟩ := List.mem_filter.1 he
    exact ⟨e, hm, by simpa using hid⟩
  · rintro ⟨e, he, rfl⟩
    exact ⟨_, List.ne_nil_of_mem (List.mem_filter.2 ⟨he, by simp⟩), rfl⟩

/-- The groups of a catalog are the entries of its identifiers. -/
theorem values_group (entries : List Entry) : (group entries).values =
    (group entries).keys.map fun id => entries.filter (·.catalogId = id) := by
  rw [TextMap.keys, List.map_map]
  refine List.map_congr_left fun e he => ?_
  have hget : (group entries).get? e.1 = some e.2 := TextMap.mem_entries_iff.1 he
  exact (get?_group_eq_some_iff.1 hget).2.symm

/-! ### Catalogs in another order -/

/-- Entries of different identifiers may change places, those of one identifier may not. -/
inductive Shuffled : List Entry → List Entry → Prop
  | nil : Shuffled [] []
  | cons (e : Entry) {l l' : List Entry} (h : Shuffled l l') : Shuffled (e :: l) (e :: l')
  | swap {e f : Entry} (h : e.catalogId ≠ f.catalogId) (l : List Entry) :
      Shuffled (e :: f :: l) (f :: e :: l)
  | trans {l l' l'' : List Entry} (h : Shuffled l l') (h' : Shuffled l' l'') : Shuffled l l''

variable {entries entries' : List Entry}

theorem Shuffled.refl (entries : List Entry) : Shuffled entries entries := by
  induction entries with
  | nil => exact .nil
  | cons e entries ih => exact .cons e ih

theorem Shuffled.filter_eq (h : Shuffled entries entries') (id : String) :
    entries.filter (·.catalogId = id) = entries'.filter (·.catalogId = id) := by
  induction h with
  | nil => rfl
  | cons e _ ih => rw [List.filter_cons, List.filter_cons, ih]
  | @swap e f h l =>
    by_cases he : e.catalogId = id
    · have hf : f.catalogId ≠ id := fun hf => h (he.trans hf.symm)
      simp [he, hf]
    · simp [List.filter_cons, he]
  | trans _ _ ih ih' => rw [ih, ih']

/-- An entry changes places with all entries in front of it, if none has its identifier. -/
theorem shuffled_middle {e : Entry} {before : List Entry}
    (h : ∀ f ∈ before, f.catalogId ≠ e.catalogId) (after : List Entry) :
    Shuffled (e :: (before ++ after)) (before ++ e :: after) := by
  induction before with
  | nil => exact .refl _
  | cons f before ih =>
    rw [List.forall_mem_cons] at h
    exact .trans (.swap h.1.symm _) (.cons f (ih h.2))

/-- Catalogs that list the same under each identifier differ in their order only. -/
theorem shuffled_iff : Shuffled entries entries' ↔
    ∀ id, entries.filter (·.catalogId = id) = entries'.filter (·.catalogId = id) := by
  refine ⟨Shuffled.filter_eq, fun h => ?_⟩
  induction entries generalizing entries' with
  | nil =>
    have hnil : entries' = [] := by
      refine List.eq_nil_iff_forall_not_mem.2 fun e he => ?_
      have hmem : e ∈ entries'.filter (·.catalogId = e.catalogId) := List.mem_filter.2 ⟨he, by simp⟩
      rw [← h e.catalogId] at hmem
      cases hmem
    rw [hnil]
    exact .nil
  | cons e entries ih =>
    -- the first entry of its identifier stands somewhere in the other catalog
    have he := h e.catalogId
    rw [List.filter_cons_of_pos (by simp)] at he
    obtain ⟨before, after, rfl, hbefore, -, hafter⟩ := List.filter_eq_cons_iff.1 he.symm
    have hnone : ∀ f ∈ before, f.catalogId ≠ e.catalogId :=
      fun f hf => by simpa using hbefore f hf
    have hmiddle := shuffled_middle hnone after
    refine .trans (.cons e (ih fun id => ?_)) hmiddle
    have hid := h id
    rw [← hmiddle.filter_eq] at hid
    by_cases hc : e.catalogId = id
    · simpa [hc] using hid
    · simpa [List.filter_cons, hc] using hid

theorem group_eq_group_iff : group entries = group entries' ↔
    ∀ id, entries.filter (·.catalogId = id) = entries'.filter (·.catalogId = id) := by
  constructor
  · intro h id
    have hget := congrArg (TextMap.get? · id) h
    simp only [get?_group] at hget
    split_ifs at hget with hnil hnil' hnil'
    · rw [hnil, hnil']
    · exact Option.some.inj hget
  · intro h
    refine TextMap.ext_get? fun id => ?_
    rw [get?_group, get?_group, h]

/-! ### All groups, one after another -/

theorem flatMap_of_nodup {ids : List String} (h : ids.Nodup) (id : String) (es : List Entry) :
    (ids.flatMap fun k => if k = id then es else []) = if id ∈ ids then es else [] := by
  induction ids with
  | nil => rfl
  | cons k ids ih =>
    rw [List.nodup_cons] at h
    rw [List.flatMap_cons, ih h.2]
    by_cases hk : k = id
    · simp [hk, hk ▸ h.1]
    · simp [hk, Ne.symm hk]

/-- The groups of a catalog hold its entries, each once. -/
theorem shuffled_values_group (entries : List Entry) :
    Shuffled entries (group entries).values.flatten := by
  refine shuffled_iff.2 fun id => ?_
  have hgroup (k : String) : (entries.filter (·.catalogId = k)).filter (·.catalogId = id) =
      if k = id then entries.filter (·.catalogId = id) else [] := by
    split_ifs with hk
    · rw [hk, List.filter_filter]
      simp
    · refine List.filter_eq_nil_iff.2 fun e he => ?_
      rw [of_decide_eq_true (List.mem_filter.1 he).2]
      simpa using hk
  have hnodup : (group entries).keys.Nodup :=
    (TextMap.keys_pairwise _).imp fun {k l} (hlt : k < l) (heq : k = l) =>
      String.lt_irrefl l (heq ▸ hlt)
  rw [values_group, ← List.flatMap_def, List.filter_flatMap]
  simp only [hgroup]
  rw [flatMap_of_nodup hnodup]
  split_ifs with hid
  · rfl
  · refine List.filter_eq_nil_iff.2 fun e he => ?_
    intro heq
    exact hid (mem_keys_group_iff.2 ⟨e, he, by simpa using heq⟩)

/-- **Grouping loses nothing but the order of different identifiers.** The identifiers of a grouped
catalog are those of its entries; each has the entries that carry it, in the order of the catalog;
and one after another the groups hold all entries, each once. So catalogs are grouped alike if they
list the same under each identifier, which is the case if one is the other with entries of different
identifiers in other places; and then they are reconciled alike. -/
theorem group_exact (entries : List Entry) :
    (∀ id, id ∈ (group entries).keys ↔ ∃ e ∈ entries, e.catalogId = id) ∧
    (∀ id ∈ (group entries).keys, ∃ es, (group entries).get? id = some es ∧
      es = entries.filter (·.catalogId = id) ∧ es ≠ [] ∧ ∀ e ∈ es, e.catalogId = id) ∧
    Shuffled entries (group entries).values.flatten ∧
    ∀ entries',
      (group entries' = group entries ↔
        ∀ id, entries'.filter (·.catalogId = id) = entries.filter (·.catalogId = id)) ∧
      (group entries' = group entries ↔ Shuffled entries' entries) ∧
      (Shuffled entries' entries → ∀ (index : Provider.Index) options fixIds,
        reconcile index options (group entries') fixIds =
          reconcile index options (group entries) fixIds) := by
  refine ⟨fun id => mem_keys_group_iff, fun id hid => ?_, shuffled_values_group entries,
    fun entries' => ⟨group_eq_group_iff, group_eq_group_iff.trans shuffled_iff.symm,
      fun h index options fixIds => ?_⟩⟩
  · obtain ⟨es, hes⟩ := TextMap.mem_keys_iff.1 hid
    obtain ⟨hne, heq⟩ := get?_group_eq_some_iff.1 hes
    refine ⟨es, hes, heq.symm, hne, fun e he => ?_⟩
    rw [← heq] at he
    exact of_decide_eq_true (List.mem_filter.1 he).2
  · rw [group_eq_group_iff.2 (shuffled_iff.1 h)]

/-- Of three entries the middle one, which is alone with its identifier, may stand anywhere. -/
theorem group_exact_middle :
    let a : Entry := ⟨"umu-1", "One", none, none⟩
    let b : Entry := ⟨"umu-2", "Two", none, none⟩
    let c : Entry := ⟨"umu-1", "One again", none, none⟩
    group [b, a, c] = group [a, b, c] ∧ group [a, c, b] = group [a, b, c] ∧
      group [c, b, a] ≠ group [a, b, c] := by
  intro a b c
  obtain ⟨-, -, -, halike⟩ := group_exact [a, b, c]
  refine ⟨(halike _).2.1.2 (.swap (by decide) _), (halike _).2.1.2 (.cons a (.swap (by decide) _)),
    fun h => ?_⟩
  exact absurd ((halike _).1.1 h "umu-1") (by decide)

end GameFixes.Catalog
