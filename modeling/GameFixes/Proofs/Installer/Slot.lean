import GameFixes.Proofs.Collection
import GameFixes.Proofs.Installer.FirstOffence

/-!
# The slots of a document

A document in the making has fields that changes overwrite, among them one for every key of its two
maps, and steps that changes add. `Slot` is such a field together with the operations that are for it
and the law of overwriting, so that one run lemma serves for all of them:

* `Slot.get_requests`: a field ends up with what the last operation for it says;
* `steps_requests`: the steps are those that the operations for steps say, and none is lost.
-/

namespace GameFixes.Installer

/-! ### Arguments say one thing -/

theorem IsText.unique {o : Operation} {s t : String} (hs : IsText o s) (ht : IsText o t) : s = t :=
  Option.some.inj (hs.1.symm.trans ht.1)

theorem IsPair.unique {o : Operation} {k k' v v' : String} (h : IsPair o k v)
    (h' : IsPair o k' v') : k = k' ∧ v = v' := by
  have := (keyValue_eq_some_iff.2 h).symm.trans (keyValue_eq_some_iff.2 h')
  simpa using this

theorem IsReplacement.unique {o : Operation} {s t : String} (hs : IsReplacement o s)
    (ht : IsReplacement o t) : s = t :=
  Except.ok.inj ((replacement_of_isReplacement hs).symm.trans (replacement_of_isReplacement ht))

theorem ne_of_mem_silentNames {m n : String} (h : m ∈ silentNames) (hn : n ∉ silentNames) :
    m ≠ n := fun e => hn (e ▸ h)

/-! ### Fields that are overwritten -/

/-- A field of drafts that changes overwrite, and the operations for it. -/
structure Slot (α : Type) where
  get : Draft → Option α
  /-- What a change writes into the field. -/
  writes : Change → Option α
  /-- The operations that are for the field. -/
  IsFor : Operation → Prop
  /-- What an operation for the field says. -/
  Means : Operation → α → Prop
  get_empty : get {} = none
  get_change : ∀ d c, get (d.change c) = (writes c).or (get d)
  /-- Only operations for the field write into it, and they write what they say. -/
  means_of_writes : ∀ {o c a}, Asks o c → c.bind writes = some a → IsFor o ∧ Means o a
  writes_of_isFor : ∀ {o c}, Asks o c → IsFor o → ∃ a, c.bind writes = some a
  means_unique : ∀ {o a b}, Means o a → Means o b → a = b

namespace Slot

variable {α : Type}

theorem writes_iff (s : Slot α) {o : Operation} {c : Option Change} (h : Asks o c) (a : α) :
    c.bind s.writes = some a ↔ s.IsFor o ∧ s.Means o a := by
  refine ⟨s.means_of_writes h, fun ⟨hf, ha⟩ => ?_⟩
  obtain ⟨b, hb⟩ := s.writes_of_isFor h hf
  rw [hb, s.means_unique ha (s.means_of_writes h hb).2]

/-- The last change that writes into a field counts. -/
theorem get_changes (s : Slot α) (d : Draft) (cs : List Change) :
    s.get (d.changes cs) = (cs.filterMap s.writes).getLast?.or (s.get d) := by
  induction cs generalizing d with
  | nil => rfl
  | cons c cs ih =>
    rw [Draft.changes_cons, ih, s.get_change, List.filterMap_cons]
    cases h : s.writes c with
    | none => rfl
    | some a =>
      rw [List.getLast?_cons]
      cases (cs.filterMap s.writes).getLast? <;> rfl

/-- A field ends up with what the last operation for it says. -/
theorem get_requests (s : Slot α) {os : List Operation} (h : ∀ o ∈ os, ∃ c, Asks o c) (a : α) :
    s.get (Draft.changes {} (os.filterMap request)) = some a ↔
      ∃ o, IsLast s.IsFor os o ∧ s.Means o a := by
  rw [s.get_changes, s.get_empty, Option.or_none, List.filterMap_filterMap]
  refine getLast?_filterMap_eq_some_iff_isLast (fun o ho b => ?_) fun o ho hf => ?_
  · obtain ⟨c, hc⟩ := h o ho
    rw [request_of_asks hc]
    exact s.writes_iff hc b
  · obtain ⟨c, hc⟩ := h o ho
    obtain ⟨b, hb⟩ := s.writes_of_isFor hc hf
    exact ⟨b, (s.means_of_writes hc hb).2⟩

/-- The arguments of the game. -/
def args : Slot String where
  get d := d.game.args
  writes
    | .setArgs args => some args
    | _ => none
  IsFor o := o.name = "append_argument"
  Means := IsText
  get_empty := rfl
  get_change d c := by cases c <;> rfl
  means_of_writes h hw := by
    cases h with
    | setArgs name text => exact ⟨name, Option.some.inj hw ▸ text⟩
    | _ => cases hw
  writes_of_isFor h hf := by
    cases h with
    | setArgs => exact ⟨_, rfl⟩
    | nothing name => exact absurd hf (ne_of_mem_silentNames name (by decide))
    | _ => simp_all
  means_unique := IsText.unique

/-- The executable of the game. -/
def exe : Slot String where
  get d := d.game.exe
  writes
    | .setExe exe => some exe
    | _ => none
  IsFor o := o.name = "replace_command"
  Means := IsReplacement
  get_empty := rfl
  get_change d c := by cases c <;> rfl
  means_of_writes h hw := by
    cases h with
    | setExe name text => exact ⟨name, Option.some.inj hw ▸ text⟩
    | _ => cases hw
  writes_of_isFor h hf := by
    cases h with
    | setExe => exact ⟨_, rfl⟩
    | nothing name => exact absurd hf (ne_of_mem_silentNames name (by decide))
    | _ => simp_all
  means_unique := IsReplacement.unique

/-- The number of processors. -/
def limitCpuCount : Slot String where
  get d := d.system.limitCpuCount
  writes
    | .limitCpus count => some count
    | _ => none
  IsFor o := o.name = "set_cpu_topology_limit"
  Means := IsText
  get_empty := rfl
  get_change d c := by cases c <;> rfl
  means_of_writes h hw := by
    cases h with
    | limitCpus name text => exact ⟨name, Option.some.inj hw ▸ text⟩
    | _ => cases hw
  writes_of_isFor h hf := by
    cases h with
    | limitCpus => exact ⟨_, rfl⟩
    | nothing name => exact absurd hf (ne_of_mem_silentNames name (by decide))
    | _ => simp_all
  means_unique := IsText.unique

/-- The mode of a library. -/
def override (dll : String) : Slot String where
  get d := d.wine.overrides.get? dll
  writes
    | .overrideDll dll' mode => if dll = dll' then some mode else none
    | _ => none
  IsFor o := o.name = "winedll_override" ∧ ∃ mode, IsPair o dll mode
  Means o mode := IsPair o dll mode
  get_empty := rfl
  get_change d c := by
    cases c with
    | overrideDll dll' mode =>
      simp only [Draft.change, TextMap.get?_insert]
      split_ifs <;> rfl
    | _ => rfl
  means_of_writes h hw := by
    cases h with
    | overrideDll name pair =>
      obtain ⟨rfl, he⟩ := Option.ite_none_right_eq_some.1 hw
      obtain rfl := Option.some.inj he
      exact ⟨⟨name, _, pair⟩, pair⟩
    | _ => cases hw
  writes_of_isFor h hf := by
    obtain ⟨hn, mode, hp⟩ := hf
    cases h with
    | overrideDll name pair => exact ⟨_, if_pos (hp.unique pair).1⟩
    | nothing name => exact absurd hn (ne_of_mem_silentNames name (by decide))
    | _ => simp_all
  means_unique h h' := (h.unique h').2

/-- The value of an environment variable. -/
def env (var : String) : Slot String where
  get d := d.system.env.get? var
  writes
    | .setVariable var' value => if var = var' then some value else none
    | _ => none
  IsFor o := o.name = "set_environment" ∧ ∃ value, IsPair o var value
  Means o value := IsPair o var value
  get_empty := rfl
  get_change d c := by
    cases c with
    | setVariable var' value =>
      simp only [Draft.change, TextMap.get?_insert]
      split_ifs <;> rfl
    | _ => rfl
  means_of_writes h hw := by
    cases h with
    | setVariable name pair =>
      obtain ⟨rfl, he⟩ := Option.ite_none_right_eq_some.1 hw
      obtain rfl := Option.some.inj he
      exact ⟨⟨name, _, pair⟩, pair⟩
    | _ => cases hw
  writes_of_isFor h hf := by
    obtain ⟨hn, value, hp⟩ := hf
    cases h with
    | setVariable name pair => exact ⟨_, if_pos (hp.unique pair).1⟩
    | nothing name => exact absurd hn (ne_of_mem_silentNames name (by decide))
    | _ => simp_all
  means_unique h h' := (h.unique h').2

end Slot

/-! ### Flags -/

/-- The fields that are set to one value or not at all. -/
inductive Flag
  | eac
  | battleye
  | esync
  | fsync
  | singleCpu

/-- A flag in a draft. -/
def Flag.get : Flag → Draft → Option Bool
  | .eac, d => d.wine.eac
  | .battleye, d => d.wine.battleye
  | .esync, d => d.wine.esync
  | .fsync, d => d.wine.fsync
  | .singleCpu, d => d.system.singleCpu

/-- The name of the operations that set a flag. -/
def Flag.operation : Flag → String
  | .eac => "install_eac_runtime"
  | .battleye => "install_battleye_runtime"
  | .esync => "disable_esync"
  | .fsync => "disable_fsync"
  | .singleCpu => "set_cpu_topology_limit"

/-- The value that a flag is set to. -/
def Flag.value : Flag → Bool
  | .eac | .battleye | .singleCpu => true
  | .esync | .fsync => false

/-- What a change writes into a flag. -/
def Flag.writes : Flag → Change → Option Bool
  | .eac, .enableEac => some true
  | .battleye, .enableBattleye => some true
  | .esync, .disableEsync => some false
  | .fsync, .disableFsync => some false
  | .singleCpu, .limitCpus _ => some true
  | _, _ => none

/-- A flag as a field. -/
def Slot.flag (f : Flag) : Slot Bool where
  get := f.get
  writes := f.writes
  IsFor o := o.name = f.operation
  Means _ b := b = f.value
  get_empty := by cases f <;> rfl
  get_change d c := by cases f <;> cases c <;> rfl
  means_of_writes h hw := by
    cases h with
    | nothing => cases hw
    | _ => cases f <;> simp_all [Flag.writes, Flag.operation, Flag.value]
  writes_of_isFor h hf := by
    cases h with
    | nothing name =>
      have hn : f.operation ∉ silentNames := by cases f <;> decide
      exact absurd hf (ne_of_mem_silentNames name hn)
    | _ => cases f <;> simp_all [Flag.writes, Flag.operation]
  means_unique h h' := h.trans h'.symm

/-- A flag is set if there is an operation for it. -/
theorem flag_requests (f : Flag) {os : List Operation} (h : ∀ o ∈ os, ∃ c, Asks o c) :
    f.get (Draft.changes {} (os.filterMap request)) =
      if ∃ o ∈ os, o.name = f.operation then some f.value else none := by
  have hf := (Slot.flag f).get_requests h
  split_ifs with ho
  · obtain ⟨o, ho⟩ := exists_isLast_iff.2 ho
    exact (hf f.value).2 ⟨o, ho, rfl⟩
  · rw [Option.eq_none_iff_forall_ne_some]
    intro b hb
    obtain ⟨o, hl, -⟩ := (hf b).1 hb
    exact ho (exists_isLast_iff.1 ⟨o, hl⟩)

/-! ### Steps -/

/-- The step that a change adds. -/
def Change.step? : Change → Option Task
  | .addStep verb => some ⟨stepTool, verb⟩
  | _ => none

/-- Steps stand in the order of the changes that add them. -/
theorem steps_changes (d : Draft) (cs : List Change) :
    (d.changes cs).steps = d.steps ++ cs.filterMap Change.step? := by
  induction cs generalizing d with
  | nil => simp
  | cons c cs ih =>
    rw [Draft.changes_cons, ih]
    cases c <;> simp [Draft.change, Change.step?, List.filterMap_cons]

/-- There is one step for each operation for steps, in their order. -/
theorem steps_requests {os : List Operation} (h : ∀ o ∈ os, ∃ c, Asks o c) :
    List.Forall₂ (fun o (t : Task) => t.name = "winetricks" ∧ IsText o t.app)
      (os.filter (·.name = "protontricks"))
      (Draft.changes {} (os.filterMap request)).steps := by
  rw [steps_changes, List.filterMap_filterMap, List.nil_append]
  induction os with
  | nil => exact .nil
  | cons o os ih =>
    rw [List.forall_mem_cons] at h
    obtain ⟨⟨c, hc⟩, hos⟩ := h
    rw [List.filterMap_cons, request_of_asks hc]
    cases hc with
    | addStep name text =>
      rw [List.filter_cons_of_pos (by simpa using name)]
      exact .cons ⟨rfl, text⟩ (ih hos)
    | nothing name =>
      have hn := ne_of_mem_silentNames name (n := "protontricks") (by decide)
      rw [List.filter_cons_of_neg (by simpa using hn)]
      exact ih hos
    | _ =>
      rw [List.filter_cons_of_neg (by simp [*])]
      exact ih hos

end GameFixes.Installer
