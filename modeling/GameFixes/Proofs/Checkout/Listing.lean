import GameFixes.Proofs.Checkout
import GameFixes.Proofs.Text
import GameFixes.Proofs.Tree.Paths

/-!
# Listings of a checkout

What is listed of a checkout, said from what stands in it and not from the order in which its
directories name that:

* `ListsFixes`: identifiers whose bytes ascend, one for each fix file of a directory;
* `exists_fixIds`: the fixes of a directory are listed;
* `IsGroupAt`, `mem_groupNames_iff`: what is listed of groups, whose names may be any bytes;
* `IsMirror`: a checkout in a directory, and `IsMirror.mem_groupNames_iff`: its groups;
* `IsMirror.exists_allIds`: all identifiers, those of the groups and those of a list;
* `fixIds_perm`, `IsMirror.of_perm`: the order of a directory does not matter;
* `listings_exact`: all of this together.
-/

namespace GameFixes.Checkout

variable {s : Site} {dir group idPrefix : String}

/-! ### Listings -/

/-- A fix file with a stem stands in a directory. -/
def IsFixAt (t : Tree) (q : Place) (stem : String) : Prop :=
  IsFixStem stem ∧ ∃ n, t.at? (q ++ [bytesOf (stem ++ ".py")]) = some n ∧ n.isFile = true

/-- Identifiers list the fixes in a directory: their bytes ascend, and there is one for each fix
file. -/
structure ListsFixes (t : Tree) (q : Place) (idPrefix : String) (ids : List String) : Prop where
  ascending : ids.Pairwise fun a b => bytesOf a ≤ bytesOf b
  perm : ∃ stems : List String, stems.Nodup ∧ (∀ stem, stem ∈ stems ↔ IsFixAt t q stem) ∧
    ids.Perm (stems.map (plainId idPrefix))

section Listings

variable {t t' : Tree} {q : Place} {ids ids' : List String} {id : String}

theorem ListsFixes.mem_iff (h : ListsFixes t q idPrefix ids) :
    id ∈ ids ↔ ∃ stem, IsFixAt t q stem ∧ plainId idPrefix stem = id := by
  obtain ⟨stems, -, hstems, hperm⟩ := h.perm
  rw [hperm.mem_iff, List.mem_map]
  simp only [hstems]

/-- The identifiers that list the fixes are known from the fix files. -/
theorem ListsFixes.eq (h : ListsFixes t q idPrefix ids) (h' : ListsFixes t' q idPrefix ids')
    (hsame : ∀ stem, IsFixAt t q stem ↔ IsFixAt t' q stem) : ids = ids' := by
  obtain ⟨stems, hnodup, hstems, hperm⟩ := h.perm
  obtain ⟨stems', hnodup', hstems', hperm'⟩ := h'.perm
  have hstemsPerm : stems.Perm stems' := (List.perm_ext_iff_of_nodup hnodup hnodup').2
    fun stem => by rw [hstems, hstems', hsame]
  have hids := hperm.trans ((hstemsPerm.map _).trans hperm'.symm)
  exact hids.eq_of_pairwise (fun _ _ _ _ => le_antisymm) (h.ascending.imp bytesOf_le_iff.1)
    (h'.ascending.imp bytesOf_le_iff.1)

theorem contentOf_of_dir (hplace : s.placeOf dir = .ok q) (hdir : s.tree.at? q = some .dir) :
    contentOf s dir = .ok (s.tree.children q) := by
  rw [contentOf, Site.list?, hplace]
  simp only [hdir]

theorem groups_of_dir (hplace : s.placeOf dir = .ok q) (hdir : s.tree.at? q = some .dir)
    (groupPrefix : String) :
    groups s dir groupPrefix = .ok (groupNames groupPrefix (s.tree.children q)) := by
  rw [groups, contentOf_of_dir hplace hdir]
  rfl

/-- A directory is a group: what is read of its name starts with the prefix. -/
def IsGroupAt (t : Tree) (p : Place) (groupPrefix : String) (name : FileName) : Prop :=
  groupPrefix.toList <+: (stringOfLossy name).toList ∧ t.at? (p ++ [name]) = some .dir

theorem groupName?_eq_some_iff {groupPrefix : String} {e : FileName × Node} :
    groupName? groupPrefix e = some group ↔
      e.2 = .dir ∧ groupPrefix.toList <+: (stringOfLossy e.1).toList ∧
        stringOfLossy e.1 = group := by
  obtain ⟨name, n⟩ := e
  cases n with
  | dir =>
    rw [groupName?, Option.ite_none_right_eq_some, Text.isSome_after?_iff]
    simp
  | file | «sealed» | link => simp [groupName?]

/-- What is listed is read of the names of the groups. -/
theorem mem_groupNames_iff (h : t.IsProper) {groupPrefix : String} :
    group ∈ groupNames groupPrefix (t.children q) ↔
      ∃ name, IsGroupAt t q groupPrefix name ∧ stringOfLossy name = group := by
  rw [groupNames, List.mem_mergeSort, List.mem_filterMap]
  simp only [groupName?_eq_some_iff]
  constructor
  · rintro ⟨⟨name, n⟩, hmem, rfl, hstart, rfl⟩
    exact ⟨name, ⟨hstart, h.mem_children_iff.1 hmem⟩, rfl⟩
  · rintro ⟨name, ⟨hstart, hat⟩, rfl⟩
    exact ⟨(name, .dir), h.mem_children_iff.2 hat, rfl, hstart, rfl⟩

/-- The stems of the fix files in a directory, in the order of its names. -/
def stemsIn (t : Tree) (q : Place) : List String := (t.children q).filterMap fixStem?

theorem mem_stemsIn_iff (h : t.IsProper) {stem : String} :
    stem ∈ stemsIn t q ↔ IsFixAt t q stem := by
  rw [stemsIn, List.mem_filterMap]
  constructor
  · rintro ⟨⟨name, n⟩, hmem, hstem⟩
    obtain ⟨hfix, rfl, hfile⟩ := fixStem?_eq_some_iff.1 hstem
    exact ⟨hfix, n, h.mem_children_iff.1 hmem, hfile⟩
  · rintro ⟨hfix, n, hn, hfile⟩
    exact ⟨_, h.mem_children_iff.2 hn, fixStem?_eq_some_iff.2 ⟨hfix, rfl, hfile⟩⟩

theorem nodup_stemsIn (h : t.IsProper) (q : Place) : (stemsIn t q).Nodup := by
  refine List.Pairwise.filterMap _ ?_ (h.pairwise_children q)
  rintro ⟨name, n⟩ ⟨name', n'⟩ hne stem hstem stem' hstem' rfl
  obtain ⟨-, rfl, -⟩ := fixStem?_eq_some_iff.1 hstem
  obtain ⟨-, rfl, -⟩ := fixStem?_eq_some_iff.1 hstem'
  exact hne rfl

/-- The fixes of a directory are listed. -/
theorem exists_fixIds (hplace : s.placeOf dir = .ok q) (hdir : s.tree.at? q = some .dir)
    (hproper : s.tree.IsProper) (idPrefix : String) :
    ∃ ids, fixIds s dir idPrefix = .ok ids ∧ ListsFixes s.tree q idPrefix ids := by
  have hfiles : fixFiles s dir idPrefix = .ok (fixFilesIn dir idPrefix (s.tree.children q)) := by
    rw [fixFiles, contentOf_of_dir hplace hdir]
    rfl
  refine ⟨_, by rw [fixIds, hfiles]; rfl,
    List.pairwise_map.2 ((fixFiles_pairwise hfiles).imp bytesOf_le_iff.2),
    stemsIn s.tree q, nodup_stemsIn hproper q, fun stem => mem_stemsIn_iff hproper, ?_⟩
  have hmap : (s.tree.children q).filterMap (fixFile? dir idPrefix) =
      (stemsIn s.tree q).map (fixFileOf dir idPrefix) := by
    rw [stemsIn, List.map_filterMap]
    exact List.filterMap_congr fun e _ => fixFile?_eq dir idPrefix e
  have hperm := (List.mergeSort_perm ((s.tree.children q).filterMap (fixFile? dir idPrefix))
    fun a b => a.id ≤ b.id).map (·.id)
  rw [hmap, List.map_map] at hperm
  rw [fixFilesIn, hmap]
  exact hperm

end Listings

/-! ### All identifiers -/

/-- A checkout in a directory: its names are texts, and the paths of its groups are short enough to
be followed. -/
structure IsMirror (s : Site) (fixesDir groupPrefix : String) (p : Place) : Prop where
  place : s.placeOf fixesDir = .ok p
  dir : s.tree.at? p = some .dir
  proper : s.tree.IsProper
  names : ∀ name n, s.tree.at? (p ++ [name]) = some n →
    IsEntryName name ∧ ∃ text, name = bytesOf text
  short : ∀ group, groupPrefix.toList <+: group.toList →
    s.tree.at? (p ++ [bytesOf group]) = some .dir →
      (bytesOf (Path.join fixesDir group)).length < pathLimit

section Mirror

variable {fixesDir groupPrefix : String} {p : Place}

/-- The groups are the directories whose names start with the prefix. -/
theorem IsMirror.mem_groupNames_iff (h : IsMirror s fixesDir groupPrefix p) :
    group ∈ groupNames groupPrefix (s.tree.children p) ↔
      groupPrefix.toList <+: group.toList ∧ s.tree.at? (p ++ [bytesOf group]) = some .dir := by
  rw [Checkout.mem_groupNames_iff h.proper]
  constructor
  · rintro ⟨name, ⟨hstart, hat⟩, rfl⟩
    obtain ⟨-, text, rfl⟩ := h.names name _ hat
    rw [stringOfLossy_bytesOf] at hstart ⊢
    exact ⟨hstart, hat⟩
  · rintro ⟨hstart, hat⟩
    exact ⟨bytesOf group, ⟨by rwa [stringOfLossy_bytesOf], hat⟩, stringOfLossy_bytesOf group⟩

/-- The path of a group leads to it. -/
theorem IsMirror.placeOf_group (h : IsMirror s fixesDir groupPrefix p)
    (hstart : groupPrefix.toList <+: group.toList)
    (hgroup : s.tree.at? (p ++ [bytesOf group]) = some .dir) :
    s.placeOf (Path.join fixesDir group) = .ok (p ++ [bytesOf group]) :=
  Site.placeOf_join h.place h.dir (h.names _ _ hgroup).1 (h.short group hstart hgroup) hgroup

/-- What is in one of the lists that are made of the elements of a list. -/
theorem mem_flatten_of_forall₂ {α β : Type} {P : α → β → Prop} {as : List α} {bss : List (List β)}
    (h : List.Forall₂ (fun a bs => ∀ b, b ∈ bs ↔ P a b) as bss) {b : β} :
    b ∈ bss.flatten ↔ ∃ a ∈ as, P a b := by
  induction h with
  | nil => simp
  | cons hbs _ ih => rw [List.flatten_cons, List.mem_append, hbs, ih, List.exists_mem_cons_iff]

theorem mem_listedIds_iff {text id : String} : id ∈ listedIds text ↔
    ∃ line ∈ Text.lines text.toList, Text.trim line ≠ [] ∧ String.ofList (Text.trim line) = id := by
  simp [listedIds, and_assoc]

/-- A fix stands in a group of a checkout, or its identifier is listed in a file. -/
def IsListed (s : Site) (p : Place) (groupPrefix idPrefix : String) (extra : Option String)
    (id : String) : Prop :=
  (∃ group stem, groupPrefix.toList <+: group.toList ∧
    s.tree.at? (p ++ [bytesOf group]) = some .dir ∧
      IsFixAt s.tree (p ++ [bytesOf group]) stem ∧ plainId idPrefix stem = id) ∨
  ∃ path ∈ extra, ∃ text, textOf s path = .ok text ∧
    ∃ line ∈ Text.lines text.toList, Text.trim line ≠ [] ∧ String.ofList (Text.trim line) = id

/-- The identifiers of all groups whose fixes are listed, and those that are listed besides. -/
theorem exists_allIds {groups' : List String} {P : String → String → Prop} {extra : Option String}
    (hgroups : groups s fixesDir groupPrefix = .ok groups')
    (hfixes : ∀ group ∈ groups', ∃ ids, fixIds s (Path.join fixesDir group) idPrefix = .ok ids ∧
      ∀ id, id ∈ ids ↔ P group id)
    (hextra : ∀ path ∈ extra, ∃ text, textOf s path = .ok text) :
    ∃ all, allIds s fixesDir groupPrefix idPrefix extra = .ok all ∧ ∀ id, id ∈ all.toList ↔
      (∃ group ∈ groups', P group id) ∨ ∃ path ∈ extra, ∃ text, textOf s path = .ok text ∧
        ∃ line ∈ Text.lines text.toList, Text.trim line ≠ [] ∧
          String.ofList (Text.trim line) = id := by
  obtain ⟨idss, hidss, hlists⟩ := exists_mapM_eq_ok hfixes
  unfold allIds
  cases extra with
  | none =>
    refine ⟨TextSet.ofList (idss.flatten ++ []), ?_, fun id => ?_⟩
    · simp only [hgroups, hidss, bind, Except.bind, pure, Except.pure]
    · rw [TextSet.mem_ofList, List.append_nil, mem_flatten_of_forall₂ hlists]
      simp
  | some path =>
    obtain ⟨text, htext⟩ := hextra path rfl
    refine ⟨TextSet.ofList (idss.flatten ++ listedIds text), ?_, fun id => ?_⟩
    · simp only [hgroups, hidss, extraIds, htext, Except.map, bind, Except.bind, pure, Except.pure]
    · rw [TextSet.mem_ofList, List.mem_append, mem_flatten_of_forall₂ hlists, mem_listedIds_iff]
      simp [htext]

/-- The identifiers of a checkout are those of the fixes in its groups, and those that are listed
besides. -/
theorem IsMirror.exists_allIds (h : IsMirror s fixesDir groupPrefix p) (idPrefix : String)
    {extra : Option String} (hextra : ∀ path ∈ extra, ∃ text, textOf s path = .ok text) :
    ∃ all, allIds s fixesDir groupPrefix idPrefix extra = .ok all ∧
      ∀ id, id ∈ all.toList ↔ IsListed s p groupPrefix idPrefix extra id := by
  obtain ⟨all, hall, hmem⟩ := Checkout.exists_allIds
    (P := fun group id => ∃ stem, IsFixAt s.tree (p ++ [bytesOf group]) stem ∧
      plainId idPrefix stem = id)
    (groups_of_dir h.place h.dir groupPrefix) (fun group hgroup => by
      obtain ⟨hstart, hat⟩ := h.mem_groupNames_iff.1 hgroup
      obtain ⟨ids, hids, hlist⟩ :=
        exists_fixIds (h.placeOf_group hstart hat) hat h.proper idPrefix
      exact ⟨ids, hids, fun id => hlist.mem_iff⟩) hextra
  refine ⟨all, hall, fun id => ?_⟩
  rw [hmem, IsListed]
  simp only [h.mem_groupNames_iff, and_assoc, exists_and_left]

/-! ### The order of a directory -/

section Order

variable {nodes : List (Place × Node)}

/-- A path leads to the same place if the tree lists its nodes in another order. -/
theorem placeOf_perm (h : s.tree.IsProper) (hperm : nodes.Perm s.tree.nodes) (path : String) :
    { s with tree := ⟨nodes⟩ : Site }.placeOf path = s.placeOf path := by
  unfold Site.placeOf Site.locate
  simp only [Tree.walk_congr (h.at?_perm hperm)]

theorem textOf_perm (h : s.tree.IsProper) (hperm : nodes.Perm s.tree.nodes) (path : String) :
    textOf { s with tree := ⟨nodes⟩ } path = textOf s path := by
  unfold textOf Site.readText? Site.read? Site.node
  simp only [placeOf_perm h hperm, h.at?_perm hperm]

theorem isFixAt_perm (h : s.tree.IsProper) (hperm : nodes.Perm s.tree.nodes) (q : Place)
    (stem : String) : IsFixAt ⟨nodes⟩ q stem ↔ IsFixAt s.tree q stem := by
  unfold IsFixAt
  rw [h.at?_perm hperm]

/-- The fixes of any directory are listed alike, whatever the order of its names. -/
theorem fixIds_perm (h : s.tree.IsProper) (hperm : nodes.Perm s.tree.nodes)
    (dir idPrefix : String) :
    fixIds { s with tree := ⟨nodes⟩ } dir idPrefix = fixIds s dir idPrefix := by
  have hplace := placeOf_perm h hperm dir
  cases hq : s.placeOf dir with
  | error o =>
    rw [hq] at hplace
    simp only [fixIds, fixFiles, contentOf, Site.list?, hplace, hq]
  | ok q =>
    rw [hq] at hplace
    have hat := h.at?_perm hperm q
    cases hn : s.tree.at? q with
    | none => simp only [fixIds, fixFiles, contentOf, Site.list?, hplace, hq, hat, hn]
    | some n =>
      cases n with
      | dir =>
        obtain ⟨ids, hids, hlist⟩ := exists_fixIds hq hn h idPrefix
        obtain ⟨ids', hids', hlist'⟩ :=
          exists_fixIds hplace (hat.trans hn) (h.of_perm hperm) idPrefix
        rw [hids, hids', hlist'.eq hlist (isFixAt_perm h hperm q)]
      | _ => simp only [fixIds, fixFiles, contentOf, Site.list?, hplace, hq, hat, hn]

theorem IsMirror.of_perm (h : IsMirror s fixesDir groupPrefix p)
    (hperm : nodes.Perm s.tree.nodes) :
    IsMirror { s with tree := ⟨nodes⟩ } fixesDir groupPrefix p where
  place := (placeOf_perm h.proper hperm fixesDir).trans h.place
  dir := (h.proper.at?_perm hperm p).trans h.dir
  proper := h.proper.of_perm hperm
  names name n hn := h.names name n ((h.proper.at?_perm hperm _).symm.trans hn)
  short group hstart hgroup :=
    h.short group hstart ((h.proper.at?_perm hperm _).symm.trans hgroup)

end Order

/-- **Listings are exact, whatever the order of a directory.** The identifiers of a directory
ascend by their bytes, and there is one for each regular file with the extension whose stem is not
that of another file; those of all groups, which are the directories whose names start with the
prefix, are put together with those that are listed in a file. None of this changes with the order
in which directories name what they hold. -/
theorem listings_exact (h : IsMirror s fixesDir groupPrefix p) (idPrefix : String)
    {extra : Option String} (hextra : ∀ path ∈ extra, ∃ text, textOf s path = .ok text) :
    (∀ dir q, s.placeOf dir = .ok q → s.tree.at? q = some .dir →
      ∃ ids, fixIds s dir idPrefix = .ok ids ∧ ListsFixes s.tree q idPrefix ids) ∧
    (∀ group, groupPrefix.toList <+: group.toList →
      s.tree.at? (p ++ [bytesOf group]) = some .dir →
        s.placeOf (Path.join fixesDir group) = .ok (p ++ [bytesOf group])) ∧
    (∃ all, allIds s fixesDir groupPrefix idPrefix extra = .ok all ∧
      ∀ id, id ∈ all.toList ↔ IsListed s p groupPrefix idPrefix extra id) ∧
    ∀ nodes, nodes.Perm s.tree.nodes →
      (∀ dir, fixIds { s with tree := ⟨nodes⟩ } dir idPrefix = fixIds s dir idPrefix) ∧
      allIds { s with tree := ⟨nodes⟩ } fixesDir groupPrefix idPrefix extra =
        allIds s fixesDir groupPrefix idPrefix extra := by
  refine ⟨fun dir q hq hdir => exists_fixIds hq hdir h.proper idPrefix,
    fun group hstart hgroup => h.placeOf_group hstart hgroup, h.exists_allIds idPrefix hextra,
    fun nodes hperm => ⟨fun dir => fixIds_perm h.proper hperm dir idPrefix, ?_⟩⟩
  have hextra' : ∀ path ∈ extra, ∃ text, textOf { s with tree := ⟨nodes⟩ } path = .ok text := by
    intro path hpath
    rw [textOf_perm h.proper hperm]
    exact hextra path hpath
  obtain ⟨all, hall, hmem⟩ := h.exists_allIds idPrefix hextra
  obtain ⟨all', hall', hmem'⟩ := (h.of_perm hperm).exists_allIds idPrefix hextra'
  have hlisted : ∀ id, IsListed { s with tree := ⟨nodes⟩ } p groupPrefix idPrefix extra id ↔
      IsListed s p groupPrefix idPrefix extra id := by
    intro id
    simp only [IsListed, h.proper.at?_perm hperm, isFixAt_perm h.proper hperm,
      textOf_perm h.proper hperm]
  have heq : all' = all := TextSet.ext_mem fun id => by rw [hmem', hmem, hlisted]
  rw [hall, hall', heq]

end Mirror

/-- A checkout with a group of two fixes for one game, in which other things have names like those
of fixes, and a directory, a file and a link that are no groups. -/
def mixedSite : Site where
  tree := ⟨[([bytesOf "m", bytesOf "g-a", bytesOf "u-5.py"], .file []), ([bytesOf "m"], .dir),
    ([bytesOf "m", bytesOf "g-a", bytesOf ".py"], .file []),
    ([bytesOf "m", bytesOf "g-a", bytesOf "5.py"], .file []),
    ([bytesOf "m", bytesOf "g-a", bytesOf "default.py"], .file []),
    ([bytesOf "m", bytesOf "g-a", bytesOf "6.py"], .link (bytesOf "5.py")),
    ([bytesOf "m", bytesOf "g-a"], .dir), ([bytesOf "m", bytesOf "g-b"], .link (bytesOf "h")),
    ([bytesOf "m", bytesOf "h"], .dir), ([bytesOf "m", bytesOf "h", bytesOf "8.py"], .file []),
    ([bytesOf "m", bytesOf "g-c"], .file []), ([bytesOf "x"], .file (bytesOf " 7 \n\n"))]⟩

theorem isProper_mixedSite : mixedSite.tree.IsProper := by decide

theorem mem_mixedSite {name : FileName} {n : Node}
    (h : mixedSite.tree.at? ([bytesOf "m"] ++ [name]) = some n) :
    (name, n) ∈ [(bytesOf "g-a", .dir), (bytesOf "g-b", .link (bytesOf "h")), (bytesOf "h", .dir),
      (bytesOf "g-c", .file [])] := by
  have hmem := isProper_mixedSite.mem_children_iff.2 h
  have hchildren : mixedSite.tree.children [bytesOf "m"] = [(bytesOf "g-a", .dir),
    (bytesOf "g-b", .link (bytesOf "h")), (bytesOf "h", .dir), (bytesOf "g-c", .file [])] := by
      decide
  rwa [hchildren] at hmem

theorem isMirror_mixedSite : IsMirror mixedSite "/m" "g-" [bytesOf "m"] where
  place := Site.placeOf_of_spells (by decide) (Tree.hasDirs_concat (Tree.hasDirs_nil _) rfl)
  dir := rfl
  proper := isProper_mixedSite
  names name n hn := by
    have hmem := mem_mixedSite hn
    simp only [List.mem_cons, Prod.mk.injEq, List.not_mem_nil, or_false] at hmem
    rcases hmem with ⟨rfl, -⟩ | ⟨rfl, -⟩ | ⟨rfl, -⟩ | ⟨rfl, -⟩
    all_goals exact ⟨by decide, _, rfl⟩
  short group _ hgroup := by
    have hmem := mem_mixedSite hgroup
    simp only [List.mem_cons, Prod.mk.injEq, List.not_mem_nil, or_false, reduceCtorEq, and_false,
      and_true, false_or] at hmem
    rcases hmem with h | h
    · rw [bytesOf_injective h]
      decide
    · rw [bytesOf_injective h]
      decide

theorem isGroup_mixedSite {group : String} : "g-".toList <+: group.toList ∧
    mixedSite.tree.at? ([bytesOf "m"] ++ [bytesOf group]) = some .dir ↔ group = "g-a" := by
  constructor
  · rintro ⟨hstart, hgroup⟩
    have hmem := mem_mixedSite hgroup
    simp only [List.mem_cons, Prod.mk.injEq, List.not_mem_nil, or_false, reduceCtorEq, and_false,
      and_true, false_or] at hmem
    rcases hmem with h | h
    · exact bytesOf_injective h
    · rw [bytesOf_injective h] at hstart
      exact absurd hstart (by decide)
  · rintro rfl
    exact ⟨by decide, rfl⟩

theorem stemsIn_mixedSite :
    stemsIn mixedSite.tree ([bytesOf "m"] ++ [bytesOf "g-a"]) = ["u-5", "5"] := by
  have hchildren : mixedSite.tree.children ([bytesOf "m"] ++ [bytesOf "g-a"]) =
      [(bytesOf "u-5.py", .file []), (bytesOf ".py", .file []), (bytesOf "5.py", .file []),
        (bytesOf "default.py", .file []), (bytesOf "6.py", .link (bytesOf "5.py"))] := by decide
  have hstarted : fixStem? (bytesOf "u-5.py", .file []) = some "u-5" :=
    fixStem?_eq_some_iff.2 ⟨by decide, rfl, rfl⟩
  have hplain : fixStem? (bytesOf "5.py", .file []) = some "5" :=
    fixStem?_eq_some_iff.2 ⟨by decide, rfl, rfl⟩
  have hexcluded : fixStem? (bytesOf "default.py", .file []) = none := by
    refine Option.eq_none_iff_forall_ne_some.2 fun stem hstem => ?_
    obtain ⟨hfix, hname, -⟩ := fixStem?_eq_some_iff.1 hstem
    obtain rfl : "default" = stem := (String.append_left_inj ".py").1 (bytesOf_injective hname)
    exact absurd hfix (by decide)
  rw [stemsIn, hchildren, List.filterMap_cons_some hstarted, List.filterMap_cons_none rfl,
    List.filterMap_cons_some hplain, List.filterMap_cons_none hexcluded,
    List.filterMap_cons_none rfl, List.filterMap_nil]

/-- The two fixes for one game are listed, whose identifiers are one, and nothing else is; it stays
so if every directory names what it holds the other way round. -/
theorem listings_exact_mixedSite :
    fixIds mixedSite "/m/g-a" "u-" = .ok ["5", "5"] ∧
    (∃ all, allIds mixedSite "/m" "g-" "u-" (some "/x") = .ok all ∧
      ∀ id, id ∈ all.toList ↔ id = "5" ∨ id = "7") ∧
    allIds { mixedSite with tree := ⟨mixedSite.tree.nodes.reverse⟩ } "/m" "g-" "u-" (some "/x") =
      allIds mixedSite "/m" "g-" "u-" (some "/x") := by
  have htext : textOf mixedSite "/x" = .ok " 7 \n\n" := by
    have hread : mixedSite.read? "/x" = some (bytesOf " 7 \n\n") :=
      Site.read?_of_spells [] (by decide : Spells "/x" [bytesOf "x"]) (Tree.hasDirs_nil _) rfl
    rw [textOf, Site.readText?, hread, Option.bind_some, stringOf?_bytesOf]
  have hlines : ∀ id, (∃ line ∈ Text.lines " 7 \n\n".toList, Text.trim line ≠ [] ∧
      String.ofList (Text.trim line) = id) ↔ id = "7" := by
    have hlines : Text.lines " 7 \n\n".toList = [" 7 ".toList, []] := by decide
    have htrim : Text.trim " 7 ".toList = "7".toList := by decide
    have hblank : Text.trim [] = [] := rfl
    intro id
    simp only [hlines, List.exists_mem_cons_iff, List.not_mem_nil, false_and, exists_false,
      or_false, htrim, hblank, String.ofList_toList, ne_eq, not_true_eq_false]
    rw [and_iff_right (by decide), eq_comm]
  have hextra : ∀ path ∈ some "/x", ∃ text, textOf mixedSite path = .ok text := by simp [htext]
  obtain ⟨hfixIds, hplace, ⟨all, hall, hmem⟩, horder⟩ :=
    listings_exact isMirror_mixedSite "u-" hextra
  obtain ⟨hstart, hgroup⟩ := isGroup_mixedSite.2 (rfl : "g-a" = "g-a")
  have hfix : ∀ stem, IsFixAt mixedSite.tree ([bytesOf "m"] ++ [bytesOf "g-a"]) stem ↔
      stem = "u-5" ∨ stem = "5" := by
    intro stem
    rw [← mem_stemsIn_iff isProper_mixedSite, stemsIn_mixedSite]
    simp
  refine ⟨?_, ⟨all, hall, fun id => ?_⟩, (horder _ (List.reverse_perm _)).2⟩
  · obtain ⟨ids, hids, hlist⟩ := hfixIds _ _ (hplace "g-a" hstart hgroup) hgroup
    have hexpected : ListsFixes mixedSite.tree ([bytesOf "m"] ++ [bytesOf "g-a"]) "u-" ["5", "5"] :=
      ⟨by decide, ["u-5", "5"], by decide, fun stem => by rw [hfix]; simp, by decide⟩
    rw [← hlist.eq hexpected fun _ => Iff.rfl]
    exact hids
  · have hfixes : (∃ group stem, "g-".toList <+: group.toList ∧
        mixedSite.tree.at? ([bytesOf "m"] ++ [bytesOf group]) = some .dir ∧
          IsFixAt mixedSite.tree ([bytesOf "m"] ++ [bytesOf group]) stem ∧
            plainId "u-" stem = id) ↔ id = "5" := by
      constructor
      · rintro ⟨group, stem, hp, hat, hstem, rfl⟩
        obtain rfl := isGroup_mixedSite.1 ⟨hp, hat⟩
        rcases (hfix stem).1 hstem with rfl | rfl
        · decide
        · decide
      · rintro rfl
        exact ⟨"g-a", "5", hstart, hgroup, (hfix "5").2 (.inr rfl), by decide⟩
    rw [hmem, IsListed, hfixes]
    simp only [Option.mem_def, Option.some.injEq, exists_eq_left', htext, Except.ok.injEq, hlines]

end GameFixes.Checkout
