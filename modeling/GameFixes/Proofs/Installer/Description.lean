import GameFixes.Proofs.Installer.Slot

/-!
# What a compiled document says

`Describes os d` says field by field what the document `d` of the operations `os` is, from the
operations alone: which of them count for a field, and what the ones that count say.

* `Describes.unique`: operations describe one document at most, so nothing else is set in it;
* `compile_eq_ok_iff_describes`: the document of a title's operations is the one they describe.
-/

namespace GameFixes.Installer

/-- The document `d` is what the operations `os` say, field by field. -/
structure Describes (os : List Operation) (d : Document) : Prop where
  /-- One step for each operation for steps, in their order. -/
  steps : List.Forall₂ (fun o (t : Task) => t.name = "winetricks" ∧ IsText o t.app)
    (os.filter (·.name = "protontricks")) d.steps
  args (a : String) : (d.game.getD {}).args = some a ↔
    ∃ o, IsLast (·.name = "append_argument") os o ∧ IsText o a
  exe (a : String) : (d.game.getD {}).exe = some a ↔
    ∃ o, IsLast (·.name = "replace_command") os o ∧ IsReplacement o a
  overrides (dll mode : String) : (d.wine.getD {}).overrides.get? dll = some mode ↔
    ∃ o, IsLast (fun o => o.name = "winedll_override" ∧ ∃ m, IsPair o dll m) os o ∧
      IsPair o dll mode
  eac : (d.wine.getD {}).eac =
    if ∃ o ∈ os, o.name = "install_eac_runtime" then some true else none
  battleye : (d.wine.getD {}).battleye =
    if ∃ o ∈ os, o.name = "install_battleye_runtime" then some true else none
  esync : (d.wine.getD {}).esync =
    if ∃ o ∈ os, o.name = "disable_esync" then some false else none
  fsync : (d.wine.getD {}).fsync =
    if ∃ o ∈ os, o.name = "disable_fsync" then some false else none
  env (var value : String) : (d.system.getD {}).env.get? var = some value ↔
    ∃ o, IsLast (fun o => o.name = "set_environment" ∧ ∃ v, IsPair o var v) os o ∧
      IsPair o var value
  singleCpu : (d.system.getD {}).singleCpu =
    if ∃ o ∈ os, o.name = "set_cpu_topology_limit" then some true else none
  limitCpuCount (a : String) : (d.system.getD {}).limitCpuCount = some a ↔
    ∃ o, IsLast (·.name = "set_cpu_topology_limit") os o ∧ IsText o a
  /-- A section that sets nothing is left out. -/
  sparse : d.game ≠ some {} ∧ d.wine ≠ some {} ∧ d.system ≠ some {}

/-! ### Sections -/

attribute [ext] GameSection Task WineSection SystemSection Document

theorem GameSection.isEmpty_iff {g : GameSection} : g.isEmpty = true ↔ g = {} := by
  rcases g with ⟨exe, args⟩
  simp [isEmpty]

theorem WineSection.isEmpty_iff {w : WineSection} : w.isEmpty = true ↔ w = {} := by
  rcases w with ⟨overrides, eac, battleye, esync, fsync⟩
  simp [isEmpty, TextMap.isEmpty_iff, and_assoc]

theorem SystemSection.isEmpty_iff {s : SystemSection} : s.isEmpty = true ↔ s = {} := by
  rcases s with ⟨env, singleCpu, limitCpuCount⟩
  simp [isEmpty, TextMap.isEmpty_iff, and_assoc]

/-- A section that is left out when it sets nothing says what it says either way. -/
theorem getD_sparse {α : Type} {isEmpty : α → Bool} {e : α}
    (h : ∀ a, isEmpty a = true ↔ a = e) (a : α) :
    ((if isEmpty a then none else some a).getD e) = a ∧
      (if isEmpty a then none else some a) ≠ some e := by
  by_cases ha : isEmpty a = true
  · rw [if_pos ha]
    exact ⟨((h a).1 ha).symm, nofun⟩
  · rw [if_neg ha]
    exact ⟨rfl, fun he => ha ((h a).2 (Option.some.inj he))⟩

/-- A section that is left out when it sets nothing is known by what it says. -/
theorem eq_of_getD_eq {α : Type} {e : α} {s t : Option α} (h : s.getD e = t.getD e)
    (hs : s ≠ some e) (ht : t ≠ some e) : s = t := by
  cases s <;> cases t <;> simp_all

/-- What a draft says is what its document says. -/
theorem describes_document {os : List Operation} (h : ∀ o ∈ os, ∃ c, Asks o c) :
    Describes os (Draft.changes {} (os.filterMap request)).document := by
  have hg := getD_sparse (fun _ => GameSection.isEmpty_iff)
    (Draft.changes {} (os.filterMap request)).game
  have hw := getD_sparse (fun _ => WineSection.isEmpty_iff)
    (Draft.changes {} (os.filterMap request)).wine
  have hs := getD_sparse (fun _ => SystemSection.isEmpty_iff)
    (Draft.changes {} (os.filterMap request)).system
  refine
    { steps := steps_requests h
      args := fun a => ?_
      exe := fun a => ?_
      overrides := fun dll mode => ?_
      eac := ?_
      battleye := ?_
      esync := ?_
      fsync := ?_
      env := fun var value => ?_
      singleCpu := ?_
      limitCpuCount := fun a => ?_
      sparse := ⟨hg.2, hw.2, hs.2⟩ }
  · exact hg.1 ▸ Slot.args.get_requests h a
  · exact hg.1 ▸ Slot.exe.get_requests h a
  · exact hw.1 ▸ (Slot.override dll).get_requests h mode
  · exact hw.1 ▸ flag_requests .eac h
  · exact hw.1 ▸ flag_requests .battleye h
  · exact hw.1 ▸ flag_requests .esync h
  · exact hw.1 ▸ flag_requests .fsync h
  · exact hs.1 ▸ (Slot.env var).get_requests h value
  · exact hs.1 ▸ flag_requests .singleCpu h
  · exact hs.1 ▸ Slot.limitCpuCount.get_requests h a

/-! ### One document only -/

theorem steps_unique {os : List Operation} {ts ts' : List Task}
    (h : List.Forall₂ (fun o (t : Task) => t.name = "winetricks" ∧ IsText o t.app) os ts)
    (h' : List.Forall₂ (fun o (t : Task) => t.name = "winetricks" ∧ IsText o t.app) os ts') :
    ts = ts' := by
  induction h generalizing ts' with
  | nil =>
    cases h'
    rfl
  | @cons o t os ts ht _ ih =>
    obtain ⟨t', ts', ht', hts', rfl⟩ := List.forall₂_cons_left_iff.1 h'
    rw [ih hts', Task.ext (ht.1.trans ht'.1.symm) (ht.2.unique ht'.2)]

/-- Operations describe one document at most. -/
theorem Describes.unique {os : List Operation} {d d' : Document} (h : Describes os d)
    (h' : Describes os d') : d = d' := by
  refine Document.ext ?_ (steps_unique h.steps h'.steps) ?_ ?_
  · refine eq_of_getD_eq (GameSection.ext ?_ ?_) h.sparse.1 h'.sparse.1
    · exact Option.ext fun a => (h.exe a).trans (h'.exe a).symm
    · exact Option.ext fun a => (h.args a).trans (h'.args a).symm
  · refine eq_of_getD_eq (WineSection.ext ?_ ?_ ?_ ?_ ?_) h.sparse.2.1 h'.sparse.2.1
    · refine TextMap.ext_get? fun dll => ?_
      exact Option.ext fun mode => (h.overrides dll mode).trans (h'.overrides dll mode).symm
    · exact h.eac.trans h'.eac.symm
    · exact h.battleye.trans h'.battleye.symm
    · exact h.esync.trans h'.esync.symm
    · exact h.fsync.trans h'.fsync.symm
  · refine eq_of_getD_eq (SystemSection.ext ?_ ?_ ?_) h.sparse.2.2 h'.sparse.2.2
    · refine TextMap.ext_get? fun var => ?_
      exact Option.ext fun value => (h.env var value).trans (h'.env var value).symm
    · exact h.singleCpu.trans h'.singleCpu.symm
    · exact Option.ext fun a => (h.limitCpuCount a).trans (h'.limitCpuCount a).symm

/-- **The document of a title's operations is the one that they describe**, and they have one unless
some operation offends. -/
theorem compile_eq_ok_iff_describes (title : String) (os : List Operation) (d : Document) :
    compile title os = .ok d ↔ (∀ o ∈ os, ¬ IsOffending title o) ∧ Describes os d := by
  simp only [not_isOffending_iff]
  rw [compile_eq_ok_iff]
  refine and_congr_right fun h => ?_
  constructor
  · rintro rfl
    exact describes_document h
  · exact (describes_document h).unique

end GameFixes.Installer
