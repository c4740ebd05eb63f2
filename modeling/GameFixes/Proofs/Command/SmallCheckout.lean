import GameFixes.Proofs.Command.Emission
import GameFixes.Proofs.Tree.Paths

/-!
# Small checkouts

A checkout with one group, whose fixes are given by their stems and texts, and an empty directory
beside it. What a conversion asks of a session is said of all of them at once:

* `loads_small`: the fixes of the group are loaded;
* `withOutDir?_small`, `target?_small`, `exists_emitted?_small`: documents with short names can be
  emitted into the empty directory.
-/

namespace GameFixes.Command

open Checkout (FixFile FixScript)
open Installer (Format Rendering)

variable {format : Format}

/-- A layout with its checkout in one directory. -/
def smallLayout : Layout where
  projectRoot := ⟨"/", .default⟩
  stateDir := "/s"
  dataDir := ⟨"/d", .default⟩
  fixesDir := ⟨"/m", .default⟩
  extraIds := "/x"
  database := "/p"
  config := ⟨"/c", .default⟩

/-- The file of a fix in a group, from its stem and its text. -/
def smallFile (f : String × String) : Place × Node :=
  ([bytesOf "m", bytesOf "g", bytesOf (f.1 ++ ".py")], .file (bytesOf f.2))

/-- A session with an empty directory, and a group of fixes in the checkout of the small layout. -/
def smallSession (found : List (String × String)) : Session where
  site := { tree := ⟨([bytesOf "o"], .dir) :: ([bytesOf "m"], .dir) ::
    ([bytesOf "m", bytesOf "g"], .dir) :: found.map smallFile⟩ }

/-- Stems and texts that the fixes of a group may have, in the order in which they are listed. -/
structure IsSmallGroup (found : List (String × String)) : Prop where
  stem : ∀ f ∈ found, Checkout.IsFixStem f.1
  path : ∀ f ∈ found, Spells (Path.join "/m/g" (f.1 ++ ".py"))
    [bytesOf "m", bytesOf "g", bytesOf (f.1 ++ ".py")]
  nodup : (found.map fun f => bytesOf (f.1 ++ ".py")).Nodup
  ascending : found.Pairwise fun f g => plainId defaultIdPrefix f.1 ≤ plainId defaultIdPrefix g.1

/-- The fix file with a stem. -/
def smallFixFile (f : String × String) : FixFile :=
  ⟨plainId defaultIdPrefix f.1, Path.join "/m/g" (f.1 ++ ".py")⟩

/-- The fix of a stem and a text. -/
def smallFix (f : String × String) : FixScript :=
  ⟨plainId defaultIdPrefix f.1, "g", Script.operations f.2⟩

section Small

variable {found : List (String × String)} {f : String × String}

theorem hasDirs_small : (smallSession found).site.tree.HasDirs [bytesOf "m", bytesOf "g"] :=
  Tree.hasDirs_concat (p := [bytesOf "m"]) (Tree.hasDirs_concat (Tree.hasDirs_nil _) rfl) rfl

theorem hasDirs_small_out : (smallSession found).site.tree.HasDirs [bytesOf "o"] :=
  Tree.hasDirs_concat (Tree.hasDirs_nil _) rfl

theorem at?_small {p : Place} (hm : p ≠ []) (h : p.head? ≠ some (bytesOf "m"))
    (ho : p ≠ [bytesOf "o"]) : (smallSession found).site.tree.at? p = none := by
  rw [Tree.at?, if_neg hm, List.lookup_eq_none_iff]
  simp only [smallSession, List.forall_mem_cons, List.forall_mem_map, smallFile, bne_iff_ne]
  refine ⟨ho, ?_, ?_, fun f _ => ?_⟩ <;>
  · rintro rfl
    exact h rfl

theorem settings_small :
    Settings.load (smallSession found).site smallLayout.config.path = .ok {} := by
  have hspells : Spells "/c" [bytesOf "c"] := by decide
  have hmissing : (smallSession found).site.contains "/c" = false :=
    Site.contains_of_spells_of_free [] hspells (Tree.hasDirs_nil _)
      (at?_small (by decide) (by decide) (by decide))
  rw [Settings.load]
  show (if (smallSession found).site.contains "/c" = true then _ else _) = _
  rw [hmissing]
  rfl

theorem contentOf_small : Checkout.contentOf (smallSession found).site "/m/g" =
    .ok (found.map fun f => (bytesOf (f.1 ++ ".py"), .file (bytesOf f.2))) := by
  have hspells : Spells "/m/g" [bytesOf "m", bytesOf "g"] := by decide
  have hchildren : (smallSession found).site.tree.children [bytesOf "m", bytesOf "g"] =
      found.map fun f => (bytesOf (f.1 ++ ".py"), .file (bytesOf f.2)) := by
    show (found.map smallFile).filterMap _ = _
    rw [List.filterMap_map, ← List.filterMap_eq_map]
    rfl
  rw [Checkout.contentOf, Site.list?_of_spells hspells hasDirs_small, hchildren]

theorem lookup_small (hnodup : (found.map fun f => bytesOf (f.1 ++ ".py")).Nodup) (hf : f ∈ found) :
    (found.map smallFile).lookup (smallFile f).1 = some (smallFile f).2 := by
  induction found with
  | nil => cases hf
  | cons g found ih =>
    rw [List.map_cons, List.nodup_cons] at hnodup
    rcases List.mem_cons.1 hf with rfl | hf
    · rw [List.map_cons, List.lookup_cons_self]
    · have hne : (smallFile f).1 ≠ (smallFile g).1 := by
        intro h
        simp only [smallFile, List.cons.injEq, and_true, true_and] at h
        exact hnodup.1 (h ▸ List.mem_map_of_mem hf)
      rw [List.map_cons, List.lookup_cons, beq_eq_false_iff_ne.2 hne]
      exact ih hnodup.2 hf

variable (h : IsSmallGroup found)

include h

theorem fixFiles_small : Checkout.fixFiles (smallSession found).site
    (Path.join smallLayout.fixesDir.path "g") (Settings.idPrefix {}) =
      .ok (found.map smallFixFile) := by
  have hpath : Path.join smallLayout.fixesDir.path "g" = "/m/g" := rfl
  have hprefix : Settings.idPrefix {} = defaultIdPrefix := rfl
  have hcontent : Checkout.contentOf (smallSession found).site "/m/g" =
      .ok ((found.map fun f => (f.1, bytesOf f.2)).map
        fun f => (bytesOf (f.1 ++ ".py"), .file f.2)) := by
    rw [contentOf_small, List.map_map]
    rfl
  rw [hpath, hprefix, Checkout.fixFiles_of_isFixStem hcontent (List.forall_mem_map.2 h.stem)
    (List.pairwise_map.2 h.ascending), List.map_map]
  rfl

theorem readScript_small (hf : f ∈ found) :
    Checkout.readScript (smallSession found).site "g" (smallFixFile f) = .ok (smallFix f) := by
  have hread : (smallSession found).site.read? (smallFixFile f).path = some (bytesOf f.2) := by
    refine Site.read?_of_spells [bytesOf "m", bytesOf "g"] (h.path f hf) hasDirs_small ?_
    exact lookup_small h.nodup hf
  exact Checkout.readScript_of_read? hread

theorem loads_small : Loads smallLayout (smallSession found) "g" (found.map smallFix) where
  fixesDir := Site.isDir_of_spells (by decide : Spells "/m" [bytesOf "m"])
    (Tree.hasDirs_concat (Tree.hasDirs_nil _) rfl)
  groupDir := Site.isDir_of_spells (by decide : Spells "/m/g" [bytesOf "m", bytesOf "g"])
    hasDirs_small
  scripts := by
    refine ⟨{}, settings_small, Checkout.scripts_eq_ok_iff.2 ⟨_, fixFiles_small h, ?_⟩⟩
    rw [List.forall₂_map_left_iff, List.forall₂_map_right_iff, List.forall₂_same]
    exact fun f => readScript_small h

end Small

/-- A file with a short name would be put into the empty directory. -/
theorem target?_small {found : List (String × String)} {path name : String}
    (h : Spells path [bytesOf "o", bytesOf name]) :
    (smallSession found).site.target? path = some [bytesOf "o", bytesOf name] :=
  Site.target?_of_spells [bytesOf "o"] h hasDirs_small_out
    (at?_small (by simp) (fun hm => absurd (Option.some.inj hm) (by decide)) (by simp))

/-- Documents with short names can be emitted into the empty directory. -/
theorem exists_emitted?_small {found : List (String × String)} {rs : List Rendering}
    (h : ∀ r ∈ rs, Spells (Path.join "/o" (r.fileName format))
      [bytesOf "o", bytesOf (r.fileName format)]) :
    ∀ r ∈ rs, (emitted? format (some "/o") [r] (smallSession found)).isSome = true := by
  intro r hr
  rw [isSome_emitted?_singleton, target?_small (h r hr)]
  rfl

theorem withOutDir?_small (found : List (String × String)) :
    withOutDir? (some "/o") (smallSession found) = some (smallSession found) := by
  have hdir : (smallSession found).site.createDirs "/o" = ((smallSession found).site, true) :=
    Site.createDirs_of_spells [] (by decide) (by decide) hasDirs_small_out
  rw [withOutDir?, hdir]

end GameFixes.Command
