import GameFixes.Proofs.Checkout.Listing

/-!
# Names of groups

The name of a directory is any bytes. A group is listed by the text that the lenient reading makes
of its name, and looked for by that text again:

* `IsCheckout`: a checkout whose names are any bytes, and `ReadsGroups`: its groups are read;
* `isStepName_stringOfLossy`: what is read of a name is a name;
* `IsCheckout.placeOf_readPath_iff`: it leads back to the group if nothing was replaced in it, or if
  a link has that name;
* `readsGroups_iff`: so exactly then all groups are found and read;
* `not_forall_readsGroups`: a group whose name is no text is listed and not found.
-/

namespace GameFixes.Checkout

/-- A checkout in a directory; its names are any bytes. -/
structure IsCheckout (s : Site) (fixesDir : String) (p : Place) : Prop where
  place : s.placeOf fixesDir = .ok p
  dir : s.tree.at? p = some .dir
  proper : s.tree.IsProper
  names : ∀ name n, s.tree.at? (p ++ [name]) = some n → IsEntryName name

/-- Where a group of a checkout is looked for: behind the path of the checkout stands what is read
of its name. -/
def readPath (fixesDir : String) (name : FileName) : String :=
  Path.join fixesDir (stringOfLossy name)

/-- A link has the name that was read of the name of a group, and leads to that group. -/
def IsLinked (s : Site) (fixesDir : String) (p : Place) (name : FileName) : Prop :=
  (∃ target, s.tree.at? (p ++ [bytesOf (stringOfLossy name)]) = some (.link target)) ∧
    s.placeOf (readPath fixesDir name) = .ok (p ++ [name])

/-- Listed groups can be read: each is found by what is read of its name, the fixes behind each
name that is listed are listed, and all identifiers have those of every group among them. -/
structure ReadsGroups (s : Site) (fixesDir : String) (p : Place) (groupPrefix idPrefix : String)
    (extra : Option String) : Prop where
  found : ∀ name, IsGroupAt s.tree p groupPrefix name →
    s.placeOf (readPath fixesDir name) = .ok (p ++ [name])
  listed : ∃ listed, groups s fixesDir groupPrefix = .ok listed ∧ ∀ group ∈ listed,
    ∃ ids, fixIds s (Path.join fixesDir group) idPrefix = .ok ids
  all : ∃ all, allIds s fixesDir groupPrefix idPrefix extra = .ok all ∧
    ∀ name stem, IsGroupAt s.tree p groupPrefix name → IsFixAt s.tree (p ++ [name]) stem →
      plainId idPrefix stem ∈ all.toList

variable {s : Site} {fixesDir groupPrefix idPrefix : String} {p : Place} {name : FileName}

/-! ### What is read of a name -/

/-- What is read of a name is a name, though it may be a longer one. -/
theorem isStepName_stringOfLossy (h : IsStepName name) :
    IsStepName (bytesOf (stringOfLossy name)) := by
  obtain ⟨hslash, hzero, hspecial⟩ := h
  have hmem {b : UInt8} (hb : b ∉ name) (hreplaced : b ∉ bytesOf "\uFFFD") :
      b ∉ bytesOf (stringOfLossy name) := fun h =>
    (mem_of_mem_bytesOf_stringOfLossy h).elim hb hreplaced
  -- the special names have no replacement character, so only they themselves are read so
  have hne (text : String) (htext : '\uFFFD' ∉ text.toList) (hname : name ≠ bytesOf text) :
      bytesOf (stringOfLossy name) ≠ bytesOf text := by
    intro h
    have hread := bytesOf_injective h
    rw [← hread] at htext
    exact hname (hread ▸ (bytesOf_stringOfLossy htext).symm)
  exact ⟨hmem hslash (by decide), hmem hzero (by decide),
    hne "" (by decide) hspecial.1, hne "." (by decide) hspecial.2.1,
    hne ".." (by decide) hspecial.2.2⟩

/-! ### The groups of a checkout -/

/-- The path at which a group is looked for leads to what stands under the name that was read. -/
theorem IsCheckout.exists_locate_readPath (h : IsCheckout s fixesDir p)
    (hname : IsGroupAt s.tree p groupPrefix name)
    (hshort : (bytesOf (readPath fixesDir name)).length < pathLimit) :
    ∃ left, s.locate true (bytesOf (readPath fixesDir name)) =
      s.tree.walk true left p [.into (bytesOf (stringOfLossy name))] :=
  Site.exists_locate_join h.place h.dir
    (isStepName_stringOfLossy (h.names _ _ hname.2).isStepName) hshort

/-- A group is found if its name is a text, or if a link to it has the name that was read. -/
theorem IsCheckout.placeOf_readPath_iff (h : IsCheckout s fixesDir p)
    (hname : IsGroupAt s.tree p groupPrefix name) :
    s.placeOf (readPath fixesDir name) = .ok (p ++ [name]) ↔
      (∃ text, name = bytesOf text) ∧ (bytesOf (readPath fixesDir name)).length < pathLimit ∨
        IsLinked s fixesDir p name := by
  constructor
  · intro hplace
    have hlocate := Site.placeOf_eq_ok_iff.1 hplace
    have hshort := (Site.locate_eq_ok_iff.1 hlocate).2.1
    obtain ⟨left, hleft⟩ := h.exists_locate_readPath hname hshort
    rw [hleft] at hlocate
    obtain ⟨hfits, hat | ⟨target, -, hat, -⟩⟩ := Tree.of_walk_into hlocate hname.2
    · rw [Tree.walk_into_of_dir hfits hat, Tree.walk] at hlocate
      have hsame : bytesOf (stringOfLossy name) = name := by simpa using hlocate
      exact .inl ⟨⟨_, hsame.symm⟩, hshort⟩
    · exact .inr ⟨⟨target, hat⟩, hplace⟩
  · rintro (⟨⟨text, rfl⟩, hshort⟩ | ⟨-, hplace⟩)
    · rw [readPath, stringOfLossy_bytesOf] at hshort ⊢
      exact Site.placeOf_join h.place h.dir (h.names _ _ hname.2) hshort hname.2
    · exact hplace

/-! ### Reading all groups -/

/-- If all groups are found, their fixes are listed, and all identifiers are those of their fixes
and those that are listed besides. -/
theorem IsCheckout.readsGroups (h : IsCheckout s fixesDir p)
    (hfound : ∀ name, IsGroupAt s.tree p groupPrefix name →
      s.placeOf (readPath fixesDir name) = .ok (p ++ [name])) (idPrefix : String)
    {extra : Option String} (hextra : ∀ path ∈ extra, ∃ text, textOf s path = .ok text) :
    ReadsGroups s fixesDir p groupPrefix idPrefix extra := by
  have hgroups := groups_of_dir h.place h.dir groupPrefix
  have hfixes : ∀ group ∈ groupNames groupPrefix (s.tree.children p),
      ∃ ids, fixIds s (Path.join fixesDir group) idPrefix = .ok ids ∧ ∀ id, id ∈ ids ↔
        ∃ name, (IsGroupAt s.tree p groupPrefix name ∧ stringOfLossy name = group) ∧
          ∃ stem, IsFixAt s.tree (p ++ [name]) stem ∧ plainId idPrefix stem = id := by
    intro group hgroup
    obtain ⟨name, hname, rfl⟩ := (mem_groupNames_iff h.proper).1 hgroup
    obtain ⟨ids, hids, hlist⟩ := exists_fixIds (hfound name hname) hname.2 h.proper idPrefix
    refine ⟨ids, hids, fun id => hlist.mem_iff.trans ⟨fun hid => ⟨name, ⟨hname, rfl⟩, hid⟩, ?_⟩⟩
    -- no two groups are found under one name
    rintro ⟨name', ⟨hname', hread⟩, hid⟩
    have hplace := hfound name' hname'
    rw [readPath, hread, ← readPath, hfound name hname] at hplace
    rwa [Except.ok.inj hplace]
  obtain ⟨all, hall, hmem⟩ := exists_allIds hgroups hfixes hextra
  refine ⟨hfound, ⟨_, hgroups, fun group hgroup => ?_⟩, all, hall, fun name stem hname hstem => ?_⟩
  · obtain ⟨ids, hids, -⟩ := hfixes group hgroup
    exact ⟨ids, hids⟩
  · have hgroup := (mem_groupNames_iff h.proper).2 ⟨name, hname, rfl⟩
    exact (hmem _).2 (.inl ⟨_, hgroup, name, ⟨hname, rfl⟩, stem, hstem, rfl⟩)

/-- A directory that cannot be listed is named by the failure. -/
theorem fixIds_eq_error_iff {dir : String} {e : Failure} :
    fixIds s dir idPrefix = .error e ↔ s.list? dir = none ∧ e = .walk dir := by
  unfold fixIds fixFiles contentOf
  cases s.list? dir with
  | none => simp [Except.map, eq_comm]
  | some content => simp [Except.map]

/-- Nothing is found if nothing stands under the name that was read. -/
theorem IsCheckout.list?_of_missing (h : IsCheckout s fixesDir p)
    (hname : IsGroupAt s.tree p groupPrefix name)
    (hmissing : s.tree.at? (p ++ [bytesOf (stringOfLossy name)]) = none) :
    s.list? (readPath fixesDir name) = none := by
  cases hplace : s.placeOf (readPath fixesDir name) with
  | error o => rw [Site.list?, hplace]
  | ok q =>
    have hlocate := Site.placeOf_eq_ok_iff.1 hplace
    obtain ⟨left, hleft⟩ :=
      h.exists_locate_readPath hname (Site.locate_eq_ok_iff.1 hlocate).2.1
    rw [hleft] at hlocate
    cases hfits : isName (bytesOf (stringOfLossy name)) with
    | false =>
      rw [Tree.walk, hfits] at hlocate
      cases hlocate
    | true =>
      rw [Tree.walk_into_of_none hfits hmissing] at hlocate
      cases hlocate

/-- If nothing stands under the name that was read of a group, no identifiers are listed at all. -/
theorem IsCheckout.allIds_of_missing (h : IsCheckout s fixesDir p)
    (hname : IsGroupAt s.tree p groupPrefix name)
    (hmissing : s.tree.at? (p ++ [bytesOf (stringOfLossy name)]) = none) (idPrefix : String)
    (extra : Option String) :
    ∃ name', IsGroupAt s.tree p groupPrefix name' ∧
      allIds s fixesDir groupPrefix idPrefix extra = .error (.walk (readPath fixesDir name')) := by
  have hlisted := (mem_groupNames_iff h.proper).2 ⟨name, hname, rfl⟩
  have hfails : fixIds s (readPath fixesDir name) idPrefix = .error _ :=
    fixIds_eq_error_iff.2 ⟨h.list?_of_missing hname hmissing, rfl⟩
  obtain ⟨group, hgroup, e, he, hall⟩ := exists_mapM_eq_error
    (f := fun group => fixIds s (Path.join fixesDir group) idPrefix) hlisted hfails
  obtain ⟨name', hname', rfl⟩ := (mem_groupNames_iff h.proper).1 hgroup
  obtain ⟨-, rfl⟩ := fixIds_eq_error_iff.1 he
  refine ⟨name', hname', ?_⟩
  rw [allIds, groups_of_dir h.place h.dir]
  simp only [bind, Except.bind, hall, readPath]

theorem IsMirror.isCheckout (h : IsMirror s fixesDir groupPrefix p) : IsCheckout s fixesDir p :=
  ⟨h.place, h.dir, h.proper, fun name n hn => (h.names name n hn).1⟩

/-- In a checkout whose names are texts every group is found. -/
theorem IsMirror.isText (h : IsMirror s fixesDir groupPrefix p)
    (hname : IsGroupAt s.tree p groupPrefix name) :
    (∃ text, name = bytesOf text) ∧ (bytesOf (readPath fixesDir name)).length < pathLimit := by
  obtain ⟨-, text, rfl⟩ := h.names name _ hname.2
  rw [IsGroupAt, stringOfLossy_bytesOf] at hname
  rw [readPath, stringOfLossy_bytesOf]
  exact ⟨⟨text, rfl⟩, h.short text hname.1 hname.2⟩

/-- **Groups are read if their names are texts.** Groups are listed by what is read of their names,
whatever these are. All of them are found by that, and their fixes listed, if and only if each has
a name that is a text, and a path that can be followed, or there is a link to it under the name that
was read. Where nothing has that name, no identifiers are listed, not even those of other groups. -/
theorem readsGroups_iff (h : IsCheckout s fixesDir p) (groupPrefix idPrefix : String)
    (extra : Option String) (hextra : ∀ path ∈ extra, ∃ text, textOf s path = .ok text) :
    (∃ listed, groups s fixesDir groupPrefix = .ok listed ∧ ∀ group, group ∈ listed ↔
      ∃ name, IsGroupAt s.tree p groupPrefix name ∧ stringOfLossy name = group) ∧
    (ReadsGroups s fixesDir p groupPrefix idPrefix extra ↔
      ∀ name, IsGroupAt s.tree p groupPrefix name →
        (∃ text, name = bytesOf text) ∧ (bytesOf (readPath fixesDir name)).length < pathLimit ∨
          IsLinked s fixesDir p name) ∧
    ∀ name, IsGroupAt s.tree p groupPrefix name →
      s.tree.at? (p ++ [bytesOf (stringOfLossy name)]) = none →
        ∃ name', IsGroupAt s.tree p groupPrefix name' ∧
          allIds s fixesDir groupPrefix idPrefix extra =
            .error (.walk (readPath fixesDir name')) := by
  refine ⟨⟨_, groups_of_dir h.place h.dir groupPrefix, fun group => mem_groupNames_iff h.proper⟩,
    ⟨fun hreads name hname => (h.placeOf_readPath_iff hname).1 (hreads.found name hname),
      fun hnames => h.readsGroups (fun name hname => (h.placeOf_readPath_iff hname).2
        (hnames name hname)) idPrefix hextra⟩,
    fun name hname hmissing => h.allIds_of_missing hname hmissing idPrefix extra⟩

/-- A checkout with one group; a byte that is in no text is the last of its name. -/
def strangeSite : Site where
  tree := ⟨[([bytesOf "m"], .dir), ([bytesOf "m", bytesOf "g-" ++ [0xFF]], .dir),
    ([bytesOf "m", bytesOf "g-" ++ [0xFF], bytesOf "570.py"], .file [])]⟩

theorem stringOfLossy_strange : stringOfLossy (bytesOf "g-" ++ [0xFF]) = "g-\uFFFD" := by
  have hbytes : bytesOf "g-" = [0x67, 0x2D] := by decide
  simp [hbytes, stringOfLossy, Text.decodeLossy, Text.readChar, Text.leadByte]

theorem isProper_strangeSite : strangeSite.tree.IsProper := by decide

theorem of_at?_strangeSite {n : Node}
    (h : strangeSite.tree.at? ([bytesOf "m"] ++ [name]) = some n) :
    name = bytesOf "g-" ++ [0xFF] := by
  have hmem := isProper_strangeSite.mem_children_iff.2 h
  have hchildren : strangeSite.tree.children [bytesOf "m"] = [(bytesOf "g-" ++ [0xFF], .dir)] := by
    decide
  rw [hchildren, List.mem_singleton] at hmem
  exact (Prod.mk.inj hmem).1

theorem isCheckout_strangeSite : IsCheckout strangeSite "/m" [bytesOf "m"] where
  place := Site.placeOf_of_spells (by decide) (Tree.hasDirs_concat (Tree.hasDirs_nil _) rfl)
  dir := rfl
  proper := isProper_strangeSite
  names name n hn := by
    rw [of_at?_strangeSite hn]
    decide

theorem isGroupAt_strangeSite :
    IsGroupAt strangeSite.tree [bytesOf "m"] "g-" (bytesOf "g-" ++ [0xFF]) := by
  refine ⟨?_, rfl⟩
  rw [stringOfLossy_strange]
  decide

theorem missing_strangeSite : strangeSite.tree.at?
    ([bytesOf "m"] ++ [bytesOf (stringOfLossy (bytesOf "g-" ++ [0xFF]))]) = none := by
  rw [stringOfLossy_strange]
  decide

/-- All groups of a checkout are read if their names are texts; nothing is listed of this one. -/
theorem readsGroups_iff_strangeSite :
    ReadsGroups mixedSite "/m" [bytesOf "m"] "g-" "u-" none ∧
    ¬ ReadsGroups strangeSite "/m" [bytesOf "m"] "g-" "u-" none ∧
    allIds strangeSite "/m" "g-" "u-" none = .error (.walk "/m/g-\uFFFD") := by
  obtain ⟨-, hmixed, -⟩ :=
    readsGroups_iff isMirror_mixedSite.isCheckout "g-" "u-" none (by simp)
  obtain ⟨-, -, hmissing⟩ :=
    readsGroups_iff isCheckout_strangeSite "g-" "u-" none (by simp)
  obtain ⟨name, ⟨-, hat⟩, hfails⟩ := hmissing _ isGroupAt_strangeSite missing_strangeSite
  rw [of_at?_strangeSite hat, readPath, stringOfLossy_strange] at hfails
  refine ⟨hmixed.2 fun name hname => .inl (isMirror_mixedSite.isText hname), fun hreads => ?_,
    hfails⟩
  obtain ⟨all, hall, -⟩ := hreads.all
  rw [hfails] at hall
  cases hall

/-- A group whose name is no text is listed under a name that leads nowhere. -/
theorem not_forall_readsGroups : ¬ ∀ s fixesDir p groupPrefix idPrefix extra,
    IsCheckout s fixesDir p → (∀ path ∈ extra, ∃ text, textOf s path = .ok text) →
      ReadsGroups s fixesDir p groupPrefix idPrefix extra := by
  intro h
  obtain ⟨all, hall, -⟩ :=
    (h strangeSite "/m" _ "g-" "u-" none isCheckout_strangeSite (by simp)).all
  obtain ⟨name, -, hfails⟩ := isCheckout_strangeSite.allIds_of_missing isGroupAt_strangeSite
    missing_strangeSite "u-" none
  rw [hfails] at hall
  cases hall

end GameFixes.Checkout
