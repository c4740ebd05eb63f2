import GameFixes.Proofs.Installer.Description

/-!
# Only the order within one slot matters

The slots of a document are its steps, its fields with one value, what each key of its two maps is
bound to, and its flags. Lists of operations that agree slot by slot compile to the same document.

* `SameSlots os os'`: the operations for each field and each key are the same and in the same order,
  and the same flags are set; this can be decided (`sameSlots_iff`);
* `SameSlots.describes`: what one of two such lists describes the other one describes too;
* `compile_filter_not_isSilent`: silent operations can be left out anywhere;
* `compile_sameSlots`: the documents of two such lists.
-/

namespace GameFixes.Installer

variable {os os' : List Operation} {d : Document}

/-! ### Slots -/

/-- Whether an operation has a name, and a labelled argument with a key before its first `=`. -/
def hasKey (name key : String) (o : Operation) : Bool :=
  o.name = name ∧ o.keyValue.map Prod.fst = some key

theorem hasKey_iff {name key : String} {o : Operation} :
    hasKey name key o = true ↔ o.name = name ∧ ∃ value, IsPair o key value := by
  simp [hasKey, ← keyValue_eq_some_iff]

/-- The names of the operations for steps, and of those for a field with one value. -/
def fieldNames : List String :=
  ["protontricks", "append_argument", "replace_command", "set_cpu_topology_limit"]

/-- The names of the operations for a key of a map. -/
def keyNames : List String := ["winedll_override", "set_environment"]

/-- The names of the operations that set a flag and do nothing else. -/
def flagNames : List String :=
  ["install_eac_runtime", "install_battleye_runtime", "disable_esync", "disable_fsync"]

/-- Two lists of operations agree in every slot. -/
structure SameSlots (os os' : List Operation) : Prop where
  /-- The operations for the steps or for a field are the same, in the same order. -/
  fields : ∀ name ∈ fieldNames, os.filter (·.name = name) = os'.filter (·.name = name)
  /-- The operations for a key are the same, in the same order. -/
  keys : ∀ name ∈ keyNames, ∀ key, os.filter (hasKey name key) = os'.filter (hasKey name key)
  /-- The same flags are set, however often. -/
  flags : ∀ name ∈ flagNames, (∃ o ∈ os, o.name = name) ↔ ∃ o ∈ os', o.name = name

/-- The keys of labelled arguments, in front of their first `=`. -/
def keysOf (os : List Operation) : List String := os.filterMap fun o => o.keyValue.map Prod.fst

theorem filter_hasKey_eq_nil {key : String} (h : key ∉ keysOf os) (name : String) :
    os.filter (hasKey name key) = [] := by
  rw [List.filter_eq_nil_iff]
  intro o ho hkey
  exact h (List.mem_filterMap.2 ⟨o, ho, (of_decide_eq_true hkey).2⟩)

/-- Only the keys that occur have to be compared. -/
theorem sameSlots_iff : SameSlots os os' ↔
    (∀ name ∈ fieldNames, os.filter (·.name = name) = os'.filter (·.name = name)) ∧
    (∀ name ∈ keyNames, ∀ key ∈ keysOf os ++ keysOf os',
      os.filter (hasKey name key) = os'.filter (hasKey name key)) ∧
    ∀ name ∈ flagNames, (∃ o ∈ os, o.name = name) ↔ ∃ o ∈ os', o.name = name := by
  refine ⟨fun h => ⟨h.fields, fun name hname key _ => h.keys name hname key, h.flags⟩,
    fun ⟨hfields, hkeys, hflags⟩ => ⟨hfields, fun name hname key => ?_, hflags⟩⟩
  by_cases hkey : key ∈ keysOf os ++ keysOf os'
  · exact hkeys name hname key hkey
  · rw [List.mem_append, not_or] at hkey
    rw [filter_hasKey_eq_nil hkey.1, filter_hasKey_eq_nil hkey.2]

instance (os os' : List Operation) : Decidable (SameSlots os os') :=
  decidable_of_iff' _ sameSlots_iff

namespace SameSlots

variable (h : SameSlots os os')
include h

theorem isLast_iff (name : String) (hname : name ∈ fieldNames) {o : Operation} :
    IsLast (·.name = name) os o ↔ IsLast (·.name = name) os' o :=
  isLast_iff_of_filter_eq (h.fields name hname)

theorem isLast_pair_iff (name : String) (hname : name ∈ keyNames) {key : String} {o : Operation} :
    IsLast (fun o => o.name = name ∧ ∃ value, IsPair o key value) os o ↔
      IsLast (fun o => o.name = name ∧ ∃ value, IsPair o key value) os' o := by
  simp only [← hasKey_iff]
  refine isLast_iff_of_filter_eq ?_
  simpa using h.keys name hname key

theorem exists_mem_iff_of_field (name : String) (hname : name ∈ fieldNames) :
    (∃ o ∈ os, o.name = name) ↔ ∃ o ∈ os', o.name = name := by
  rw [← exists_isLast_iff, ← exists_isLast_iff]
  exact exists_congr fun o => h.isLast_iff name hname

/-- What operations describe depends on their slots only. -/
theorem describes (hd : Describes os d) : Describes os' d where
  steps := h.fields "protontricks" (by decide) ▸ hd.steps
  args a := by simp only [hd.args, h.isLast_iff "append_argument" (by decide)]
  exe a := by simp only [hd.exe, h.isLast_iff "replace_command" (by decide)]
  overrides dll mode := by
    simp only [hd.overrides, h.isLast_pair_iff "winedll_override" (by decide)]
  eac := by simp only [hd.eac, h.flags "install_eac_runtime" (by decide)]
  battleye := by simp only [hd.battleye, h.flags "install_battleye_runtime" (by decide)]
  esync := by simp only [hd.esync, h.flags "disable_esync" (by decide)]
  fsync := by simp only [hd.fsync, h.flags "disable_fsync" (by decide)]
  env var value := by simp only [hd.env, h.isLast_pair_iff "set_environment" (by decide)]
  singleCpu := by
    simp only [hd.singleCpu, h.exists_mem_iff_of_field "set_cpu_topology_limit" (by decide)]
  limitCpuCount a := by
    simp only [hd.limitCpuCount, h.isLast_iff "set_cpu_topology_limit" (by decide)]
  sparse := hd.sparse

end SameSlots

/-! ### Silent operations -/

theorem changesOf_filter_not_isSilent (title : String) (os : List Operation) :
    changesOf title (os.filter (!isSilent ·)) = changesOf title os := by
  induction os with
  | nil => rfl
  | cons o os ih =>
    by_cases ho : isSilent o = true
    · rw [List.filter_cons_of_neg (by simpa using ho), ih, changesOf, changeOf_eq_none_iff.2 ho]
      cases changesOf title os <;> rfl
    · rw [List.filter_cons_of_pos (by simpa using ho), changesOf, changesOf, ih]

/-- Silent operations can be left out. -/
theorem compile_filter_not_isSilent (title : String) (os : List Operation) :
    compile title (os.filter (!isSilent ·)) = compile title os := by
  rw [compile, compile, changesOf_filter_not_isSilent]

/-! ### The documents of lists that agree -/

/-- **Lists of operations that agree in every slot compile to one document**, if they compile. So
the operations of different slots can change places, and silent operations can be put in, left out
and moved. -/
theorem compile_sameSlots (title : String) (os os' : List Operation) :
    (SameSlots os os' → ∀ d d', compile title os = .ok d → compile title os' = .ok d' → d = d') ∧
      (SameSlots os os' → os.Perm os' → ∀ d, compile title os = .ok d →
        compile title os' = .ok d) ∧
      (os.filter (!isSilent ·) = os'.filter (!isSilent ·) →
        compile title os = compile title os') := by
  have unique (h : SameSlots os os') {d : Document} (hd : compile title os = .ok d)
      (hasks : ∀ o ∈ os', ∃ c, Asks o c) :
      (Draft.changes {} (os'.filterMap request)).document = d := by
    obtain ⟨hos, rfl⟩ := compile_eq_ok_iff.1 hd
    exact (describes_document hasks).unique (h.describes (describes_document hos))
  refine ⟨fun h d d' hd hd' => ?_, fun h hperm d hd => ?_, fun h => ?_⟩
  · obtain ⟨hasks, rfl⟩ := compile_eq_ok_iff.1 hd'
    exact (unique h hd hasks).symm
  · have hasks : ∀ o ∈ os', ∃ c, Asks o c :=
      fun o ho => (compile_eq_ok_iff.1 hd).1 o (hperm.mem_iff.2 ho)
    exact compile_eq_ok_iff.2 ⟨hasks, unique h hd hasks⟩
  · rw [← compile_filter_not_isSilent title os, h, compile_filter_not_isSilent]

/-- Three operations change places, then one for the host runtime is put in; a flag that is set
again makes no difference. -/
theorem compile_sameSlots_moved :
    ∃ d, compile "Game" [.labelled "set_environment" "A=1", .labelled "winedll_override" "d3d9=n",
        .labelled "set_environment" "B=2", .bare "disable_esync",
        .labelled "set_environment" "A=3"] = .ok d ∧
      compile "Game" [.bare "disable_esync", .labelled "set_environment" "B=2",
        .labelled "set_environment" "A=1", .labelled "set_environment" "A=3",
        .labelled "winedll_override" "d3d9=n"] = .ok d ∧
      compile "Game" [.bare "disable_esync", .labelled "set_environment" "B=2",
        .bare "use_seccomp", .labelled "set_environment" "A=1", .labelled "set_environment" "A=3",
        .labelled "winedll_override" "d3d9=n"] = .ok d ∧
      ∀ d', compile "Game" [.bare "disable_esync", .labelled "set_environment" "B=2",
        .bare "disable_esync", .labelled "set_environment" "A=1",
        .labelled "set_environment" "A=3", .labelled "winedll_override" "d3d9=n"] = .ok d' →
          d = d' := by
  have h : compile "Game" [.labelled "set_environment" "A=1",
        .labelled "winedll_override" "d3d9=n", .labelled "set_environment" "B=2",
        .bare "disable_esync", .labelled "set_environment" "A=3"] =
      .ok { wine := some { overrides := .ofList [("d3d9", "n")], esync := some false }
            system := some { env := .ofList [("A", "3"), ("B", "2")] } } := by decide +kernel
  have hmoved := (compile_sameSlots "Game" _ [.bare "disable_esync",
    .labelled "set_environment" "B=2", .labelled "set_environment" "A=1",
    .labelled "set_environment" "A=3", .labelled "winedll_override" "d3d9=n"]).2.1
    (by decide +kernel) (by decide +kernel) _ h
  refine ⟨_, h, hmoved, ?_, fun d' hd' => ?_⟩
  · exact ((compile_sameSlots "Game" _ _).2.2 (by decide +kernel)).symm.trans hmoved
  · exact (compile_sameSlots "Game" _ _).1 (by decide +kernel) _ _ h hd'

end GameFixes.Installer
