import GameFixes.Checkout.Listing
import GameFixes.Proofs.Collection
import GameFixes.Proofs.Text.Utf8
import Mathlib.Data.List.Forall2
import Mathlib.Data.List.TakeWhile
import Mathlib.Data.String.Basic

/-!
# The fixes of a group

A group lists its fix files by their identifiers and reads one fix from each:

* `splitExtension_eq_some_iff`: an extension stands behind the last dot of a name;
* `fixStem?_eq_some_iff`, `fixFile?_eq`: fix files are known by their stems;
* `scripts_eq_ok_iff`: the fixes of a group are those of its fix files, in the order of the files;
* `scripts_pairwise`: they stand in ascending order of their identifiers.
-/

namespace GameFixes.Checkout

variable {s : Site} {dir group idPrefix : String} {files : List FixFile} {fixes : List FixScript}

/-- What is made of each element of a list without a failure. -/
theorem mapM_eq_ok_iff {α β ε : Type} {f : α → Except ε β} {as : List α} {bs : List β} :
    as.mapM f = .ok bs ↔ List.Forall₂ (fun a b => f a = .ok b) as bs := by
  induction as generalizing bs with
  | nil =>
    rw [List.forall₂_nil_left_iff]
    exact ⟨fun h => (Except.ok.inj h).symm, fun h => h ▸ rfl⟩
  | cons a as ih =>
    rw [List.mapM_cons, List.forall₂_cons_left_iff]
    constructor
    · intro h
      cases ha : f a with
      | error e => rw [ha] at h; cases h
      | ok b =>
        cases has : as.mapM f with
        | error e => rw [ha, has] at h; cases h
        | ok bs' =>
          rw [ha, has] at h
          exact ⟨b, bs', rfl, ih.1 has, (Except.ok.inj h).symm⟩
    · rintro ⟨b, bs', ha, has, rfl⟩
      rw [ha, ih.2 has]
      rfl

/-- Something is made of each element of a list if it is of every one. -/
theorem exists_mapM_eq_ok {α β ε : Type} {f : α → Except ε β} {P : α → β → Prop} {l : List α}
    (h : ∀ a ∈ l, ∃ b, f a = .ok b ∧ P a b) :
    ∃ bs, l.mapM f = .ok bs ∧ List.Forall₂ P l bs := by
  obtain ⟨bs, hbs⟩ := exists_forall₂ h
  exact ⟨bs, mapM_eq_ok_iff.2 (hbs.imp fun _ _ hb => hb.1), hbs.imp fun _ _ hb => hb.2⟩

/-- A list of results fails as the first of them does. -/
theorem exists_mapM_eq_error {α β ε : Type} {f : α → Except ε β} {l : List α} {a : α} {e : ε}
    (ha : a ∈ l) (h : f a = .error e) :
    ∃ a' ∈ l, ∃ e', f a' = .error e' ∧ l.mapM f = .error e' := by
  induction l with
  | nil => cases ha
  | cons b l ih =>
    rw [List.mapM_cons]
    cases hb : f b with
    | error e' => exact ⟨b, List.mem_cons_self, e', hb, rfl⟩
    | ok b' =>
      have hmem : a ∈ l := by
        rcases List.mem_cons.1 ha with rfl | hmem
        · rw [h] at hb
          cases hb
        · exact hmem
      obtain ⟨a', ha', e', he', hl⟩ := ih hmem
      refine ⟨a', List.mem_cons_of_mem _ ha', e', he', ?_⟩
      rw [hl]
      rfl

/-! ### Fix files -/

/-- A stem that fix files may have: any but those of files that are no fixes. -/
def IsFixStem (stem : String) : Prop := stem ≠ "" ∧ stem ∉ excludedStems

instance : DecidablePred IsFixStem := fun _ => inferInstanceAs (Decidable (_ ∧ _))

/-- A name ends with an extension behind its last dot, unless that dot comes first. -/
theorem splitExtension_append (stem : List UInt8) {extension : List UInt8} (h : dot ∉ extension) :
    splitExtension (stem ++ dot :: extension) =
      if stem = [] then (dot :: extension, none) else (stem, some extension) := by
  have htake : (stem ++ dot :: extension).reverse.takeWhile (· ≠ dot) = extension.reverse := by
    have hextension : ∀ b ∈ extension.reverse, decide (b ≠ dot) = true := by
      intro b hb
      exact decide_eq_true fun hdot => h (hdot ▸ List.mem_reverse.1 hb)
    rw [List.reverse_append, List.reverse_cons, List.append_assoc, List.singleton_append,
      List.takeWhile_append_of_pos hextension, List.takeWhile_cons_of_neg (by simp),
      List.append_nil]
  have hlength : (stem ++ dot :: extension).length - extension.length - 1 = stem.length := by
    rw [List.length_append, List.length_cons]
    omega
  unfold splitExtension
  simp only [htake, List.reverse_reverse, hlength, List.take_left']
  cases stem <;> rfl

theorem splitExtension_of_dot_notMem {name : FileName} (h : dot ∉ name) :
    splitExtension name = (name, none) := by
  have htake : name.reverse.takeWhile (· ≠ dot) = name.reverse := by
    rw [List.takeWhile_eq_self_iff]
    intro b hb
    exact decide_eq_true fun hdot => h (hdot ▸ List.mem_reverse.1 hb)
  unfold splitExtension
  simp only [htake, List.reverse_reverse, Nat.sub_self, Nat.zero_sub, List.take_zero]

/-- Splitting off an extension takes a name apart at its last dot. -/
theorem splitExtension_eq_some_iff {name stem extension : List UInt8} :
    splitExtension name = (stem, some extension) ↔
      stem ≠ [] ∧ dot ∉ extension ∧ name = stem ++ dot :: extension := by
  constructor
  · intro h
    by_cases hdot : dot ∈ name.reverse
    · obtain ⟨after, before, heq, hafter⟩ := List.eq_append_cons_of_mem hdot
      have hname : name = before.reverse ++ dot :: after.reverse := by
        rw [← List.reverse_reverse name, heq]
        simp
      have hafter' : dot ∉ after.reverse := by simpa using hafter
      rw [hname, splitExtension_append _ hafter'] at h
      split_ifs at h with hnil
      · cases h
      · obtain ⟨rfl, rfl⟩ : before.reverse = stem ∧ after.reverse = extension := by simpa using h
        exact ⟨hnil, hafter', hname⟩
    · rw [splitExtension_of_dot_notMem (by simpa using hdot)] at h
      cases h
  · rintro ⟨hstem, hdot, rfl⟩
    rw [splitExtension_append stem hdot, if_neg hstem]

/-- The stem of a fix file, if this is one. -/
def fixStem? (e : FileName × Node) : Option String :=
  match splitExtension e.1 with
  | (stem, some extension) =>
    if e.2.isFile && extension = fixExtension then
      (stringOf? stem).filter (· ∉ excludedStems)
    else none
  | (_, none) => none

/-- The fix file with a stem. -/
def fixFileOf (dir idPrefix stem : String) : FixFile :=
  ⟨plainId idPrefix stem, Path.join dir (stem ++ ".py")⟩

theorem fixFile?_eq (dir idPrefix : String) (e : FileName × Node) :
    fixFile? dir idPrefix e = (fixStem? e).map (fixFileOf dir idPrefix) := by
  obtain ⟨name, node⟩ := e
  rcases hsplit : splitExtension name with ⟨bytes, _ | extension⟩
  · simp only [fixFile?, fixStem?, hsplit, Option.map_none]
  · simp only [fixFile?, fixStem?, hsplit]
    split_ifs with hfile
    · cases stringOf? bytes with
      | none => rfl
      | some stem =>
        by_cases hstem : stem ∈ excludedStems
        · simp [Option.filter, hstem]
        · simp [Option.filter, hstem, fixFileOf]
    · rfl

/-- A fix file is a file whose name is a stem with the extension. -/
theorem fixStem?_eq_some_iff {name : FileName} {node : Node} {stem : String} :
    fixStem? (name, node) = some stem ↔
      IsFixStem stem ∧ name = bytesOf (stem ++ ".py") ∧ node.isFile = true := by
  have hbytes : bytesOf (stem ++ ".py") = bytesOf stem ++ dot :: fixExtension := bytesOf_append ..
  have hdot : dot ∉ fixExtension := by decide
  unfold fixStem?
  constructor
  · intro h
    split at h
    · rename_i bytes extension hsplit
      split_ifs at h with hfile
      simp only [Bool.and_eq_true, decide_eq_true_eq] at hfile
      obtain ⟨hstem, hexcluded⟩ := Option.filter_eq_some_iff.1 h
      rw [stringOf?_eq_some_iff] at hstem
      obtain ⟨hne, -, hname⟩ := splitExtension_eq_some_iff.1 hsplit
      refine ⟨⟨?_, by simpa using hexcluded⟩, ?_, hfile.1⟩
      · rintro rfl
        exact hne hstem.symm
      · rw [hbytes, hstem, ← hfile.2]
        exact hname
    · cases h
  · rintro ⟨⟨hne, hexcluded⟩, rfl, hfile⟩
    have hstem : bytesOf stem ≠ [] := fun h => hne (bytesOf_injective (t := "") h)
    rw [hbytes, splitExtension_eq_some_iff.2 ⟨hstem, hdot, rfl⟩]
    dsimp only
    rw [if_pos (by simp [hfile]), stringOf?_bytesOf]
    exact Option.filter_some_pos (by simpa using hexcluded)

/-- A file with such a stem and the right extension is a fix file. -/
theorem fixFile?_of_isFixStem {stem : String} (h : IsFixStem stem) (content : List UInt8) :
    fixFile? dir idPrefix (bytesOf (stem ++ ".py"), .file content) =
      some ⟨plainId idPrefix stem, Path.join dir (stem ++ ".py")⟩ := by
  rw [fixFile?_eq, fixStem?_eq_some_iff.2 ⟨h, rfl, rfl⟩]
  rfl

/-- The files of a group stand in ascending order of their identifiers. -/
theorem fixFiles_pairwise (h : fixFiles s dir idPrefix = .ok files) :
    files.Pairwise fun a b => a.id ≤ b.id := by
  unfold fixFiles at h
  cases hc : contentOf s dir with
  | error e => rw [hc] at h; cases h
  | ok content =>
    rw [hc] at h
    obtain rfl := Except.ok.inj h
    have hsorted : (fixFilesIn dir idPrefix content).Pairwise
        fun a b => decide (a.id ≤ b.id) = true :=
      List.pairwise_mergeSort
        (fun a b c hab hbc => by
          rw [decide_eq_true_eq] at *
          exact le_trans hab hbc)
        (fun a b => by simpa using le_total a.id b.id) _
    exact hsorted.imp of_decide_eq_true

/-- Fix files whose identifiers ascend are listed as they are found. -/
theorem fixFiles_of_isFixStem {found : List (String × List UInt8)}
    (hcontent : contentOf s dir =
      .ok (found.map fun f => (bytesOf (f.1 ++ ".py"), .file f.2)))
    (hstems : ∀ f ∈ found, IsFixStem f.1)
    (hsorted : found.Pairwise fun f g => plainId idPrefix f.1 ≤ plainId idPrefix g.1) :
    fixFiles s dir idPrefix =
      .ok (found.map fun f => ⟨plainId idPrefix f.1, Path.join dir (f.1 ++ ".py")⟩) := by
  have hfiles : (found.map fun f => (bytesOf (f.1 ++ ".py"), Node.file f.2)).filterMap
      (fixFile? dir idPrefix) =
        found.map fun f => ⟨plainId idPrefix f.1, Path.join dir (f.1 ++ ".py")⟩ := by
    rw [List.filterMap_map, ← List.filterMap_eq_map]
    exact List.filterMap_congr fun f hf => fixFile?_of_isFixStem (hstems f hf) f.2
  rw [fixFiles, hcontent]
  show Except.ok (fixFilesIn dir idPrefix _) = _
  rw [fixFilesIn, hfiles, List.mergeSort_of_pairwise]
  exact List.pairwise_map.2 (hsorted.imp decide_eq_true)

theorem readScript_eq_ok_iff {file : FixFile} {f : FixScript} :
    readScript s group file = .ok f ↔
      ∃ text, textOf s file.path = .ok text ∧ f = ⟨file.id, group, Script.operations text⟩ := by
  unfold readScript
  cases textOf s file.path <;> simp [Except.map, eq_comm]

/-- A fix file that holds a text is read as the operations of that text. -/
theorem readScript_of_read? {file : FixFile} {text : String}
    (h : s.read? file.path = some (bytesOf text)) :
    readScript s group file = .ok ⟨file.id, group, Script.operations text⟩ := by
  refine readScript_eq_ok_iff.2 ⟨text, ?_, rfl⟩
  rw [textOf, Site.readText?, h, Option.bind_some, stringOf?_bytesOf]

/-- There is one fix for each fix file, in the order of the files. -/
theorem scripts_eq_ok_iff : scripts s dir group idPrefix = .ok fixes ↔
    ∃ files, fixFiles s (Path.join dir group) idPrefix = .ok files ∧
      List.Forall₂ (fun file f => readScript s group file = .ok f) files fixes := by
  unfold scripts
  cases fixFiles s (Path.join dir group) idPrefix with
  | error e => exact iff_of_false nofun (by simp)
  | ok files =>
    simp only [Except.ok.injEq, exists_eq_left']
    exact mapM_eq_ok_iff

/-- The fixes of a group stand in ascending order of their identifiers. -/
theorem scripts_pairwise (h : scripts s dir group idPrefix = .ok fixes) :
    fixes.Pairwise fun f g => f.id ≤ g.id := by
  obtain ⟨files, hfiles, hfixes⟩ := scripts_eq_ok_iff.1 h
  have hids : fixes.map (·.id) = files.map (·.id) := by
    symm
    rw [← List.forall₂_eq_eq_eq, List.forall₂_map_left_iff, List.forall₂_map_right_iff]
    refine hfixes.imp fun file f h => ?_
    obtain ⟨text, -, rfl⟩ := readScript_eq_ok_iff.1 h
    rfl
  have hsorted := List.pairwise_map.2 (fixFiles_pairwise hfiles)
  rw [← hids] at hsorted
  exact List.pairwise_map.1 hsorted

end GameFixes.Checkout
