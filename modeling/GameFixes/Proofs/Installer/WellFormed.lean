import GameFixes.Proofs.Installer.Description
import GameFixes.Proofs.Installer.RoundTrip
import GameFixes.Proofs.Json.Inside

/-!
# Compiled documents are well-formed and sparse

What is true of every document that operations compile to, whichever they are and in whatever order.

* `Document.WellFormed`: what steps, keys, arguments and flags can be, and that no section is empty;
* `Draft.changes_eq_empty_iff`: a draft is empty only before the first change to it;
* `exists_read_render`: in the JSON form of a document without empty sections nothing is null or
  empty;
* `compile_wellFormed`: all of this for the document of a title's operations, which is empty if and
  only if all of them are silent.
-/

namespace GameFixes.Installer

open Json (Value AreFilled)

/-! ### What fields can be -/

/-- A text that is not empty and has no blanks around it. -/
def IsTidy (s : String) : Prop := s ≠ "" ∧ trimmed s = s

/-- A key that can stand in front of an `=`. -/
def IsKey (s : String) : Prop := s ≠ "" ∧ '=' ∉ s.toList

/-- What holds of every compiled document. -/
structure Document.WellFormed (d : Document) : Prop where
  /-- No section sets nothing. -/
  sections : d.game ≠ some {} ∧ d.wine ≠ some {} ∧ d.system ≠ some {}
  steps : ∀ t ∈ d.steps, t.name = "winetricks" ∧ IsTidy t.app
  args : ∀ g a, d.game = some g → g.args = some a → IsTidy a
  exe : ∀ g e, d.game = some g → g.exe = some e → e ≠ ""
  overrides : ∀ w, d.wine = some w → ∀ dll ∈ w.overrides.keys, IsKey dll
  env : ∀ s, d.system = some s → ∀ var ∈ s.env.keys, IsKey var
  eac : ∀ w, d.wine = some w → w.eac ≠ some false
  battleye : ∀ w, d.wine = some w → w.battleye ≠ some false
  esync : ∀ w, d.wine = some w → w.esync ≠ some true
  fsync : ∀ w, d.wine = some w → w.fsync ≠ some true
  cpuCount : ∀ s c, d.system = some s → s.limitCpuCount = some c → IsTidy c
  /-- Whether the processors are limited, and how many are left, are said together. -/
  singleCpu : ∀ s, d.system = some s → (s.singleCpu.isSome ↔ s.limitCpuCount.isSome)

theorem IsText.isTidy {o : Operation} {text : String} (h : IsText o text) : IsTidy text := by
  obtain ⟨ht, hne⟩ := h
  obtain ⟨s, -, rfl⟩ := Option.map_eq_some_iff.1 ht
  exact ⟨hne, by simp [trimmed, Text.trim_trim]⟩

theorem IsReplacement.ne_empty {o : Operation} {exe : String} (h : IsReplacement o exe) :
    exe ≠ "" := by
  rcases h with ⟨hne, -⟩ | ⟨-, ht⟩
  · exact hne
  · exact ht.2

/-- The key of a pair that is asked for can stand in front of an `=`: an empty one offends. -/
theorem isKey_of_asks {o : Operation} {key value : String} (hasks : ∃ c, Asks o c)
    (hname : o.name ∈ ["winedll_override", "set_environment"]) (hp : IsPair o key value) :
    IsKey key := by
  refine ⟨?_, hp.2⟩
  rintro rfl
  have hlacks : LacksPair o := fun k v h => (h.unique hp).1
  exact not_isOffending_iff.2 hasks ⟨.malformed o.text "" .expectedKeyValue,
    .expectedKeyValue hname hlacks⟩

/-- A flag that is set to one value or not at all does not have the other one. -/
theorem ne_of_eq_ite {p : Prop} [Decidable p] {x : Option Bool} {b : Bool}
    (h : x = if p then some b else none) : x ≠ some !b := by
  rw [h]
  split_ifs <;> simp

section Describes

variable {os : List Operation} {d : Document}

/-- The number of processors is said if some operation limits them. -/
theorem isSome_limitCpuCount_iff (hasks : ∀ o ∈ os, ∃ c, Asks o c) (h : Describes os d) :
    (d.system.getD {}).limitCpuCount.isSome ↔ ∃ o ∈ os, o.name = "set_cpu_topology_limit" := by
  rw [Option.isSome_iff_exists]
  constructor
  · rintro ⟨count, hcount⟩
    obtain ⟨o, ho, -⟩ := (h.limitCpuCount count).1 hcount
    exact ⟨o, ho.mem, ho.prop⟩
  · intro ho
    obtain ⟨o, ho⟩ := exists_isLast_iff.2 ho
    obtain ⟨c, hc⟩ := hasks o ho.mem
    obtain ⟨count, hcount⟩ := Slot.limitCpuCount.writes_of_isFor hc ho.prop
    have ht := (Slot.limitCpuCount.means_of_writes hc hcount).2
    exact ⟨count, (h.limitCpuCount count).2 ⟨o, ho, ht⟩⟩

theorem Describes.wellFormed (hasks : ∀ o ∈ os, ∃ c, Asks o c) (h : Describes os d) :
    d.WellFormed := by
  refine
    { sections := h.sparse
      steps := fun t ht => ?_
      args := ?_
      exe := ?_
      overrides := ?_
      env := ?_
      eac := ?_
      battleye := ?_
      esync := ?_
      fsync := ?_
      cpuCount := ?_
      singleCpu := ?_ }
  · have hsteps := forall_mem_iff_of_forall₂ (p := fun _ => True)
      (q := fun t : Task => t.name = "winetricks" ∧ IsTidy t.app) h.steps
      fun _ _ _ hot => iff_of_true trivial ⟨hot.1, hot.2.isTidy⟩
    exact hsteps.1 (fun _ _ => trivial) t ht
  · intro g a hg ha
    obtain ⟨o, -, ht⟩ := (h.args a).1 (by rw [hg]; exact ha)
    exact ht.isTidy
  · intro g e hg he
    obtain ⟨o, -, ht⟩ := (h.exe e).1 (by rw [hg]; exact he)
    exact ht.ne_empty
  · intro w hw dll hdll
    obtain ⟨mode, hmode⟩ := TextMap.mem_keys_iff.1 hdll
    obtain ⟨o, ho, hp⟩ := (h.overrides dll mode).1 (by rw [hw]; exact hmode)
    exact isKey_of_asks (hasks o ho.mem) (by simp [ho.prop.1]) hp
  · intro s hs var hvar
    obtain ⟨value, hvalue⟩ := TextMap.mem_keys_iff.1 hvar
    obtain ⟨o, ho, hp⟩ := (h.env var value).1 (by rw [hs]; exact hvalue)
    exact isKey_of_asks (hasks o ho.mem) (by simp [ho.prop.1]) hp
  · intro w hw
    exact ne_of_eq_ite (by simpa [hw] using h.eac)
  · intro w hw
    exact ne_of_eq_ite (by simpa [hw] using h.battleye)
  · intro w hw
    exact ne_of_eq_ite (by simpa [hw] using h.esync)
  · intro w hw
    exact ne_of_eq_ite (by simpa [hw] using h.fsync)
  · intro s c hs hc
    obtain ⟨o, -, ht⟩ := (h.limitCpuCount c).1 (by rw [hs]; exact hc)
    exact ht.isTidy
  · intro s hs
    have hcount := isSome_limitCpuCount_iff hasks h
    have hsingle := h.singleCpu
    rw [hs, Option.getD_some] at hcount hsingle
    rw [hcount, hsingle]
    split_ifs with ho <;> simp [ho]

end Describes

/-! ### Empty documents -/

/-- After a change a draft is not empty. -/
theorem Draft.change_ne_empty (d : Draft) (c : Change) : d.change c ≠ {} := by
  cases c <;> simp [Draft.change, Draft.mk.injEq, TextMap.insert_ne_empty]

theorem Draft.changes_eq_empty_iff {cs : List Change} : Draft.changes {} cs = {} ↔ cs = [] := by
  constructor
  · intro h
    rcases List.eq_nil_or_concat cs with hcs | ⟨cs, c, rfl⟩
    · exact hcs
    · rw [List.concat_eq_append, Draft.changes_append] at h
      exact absurd h (Draft.change_ne_empty _ c)
  · rintro rfl
    rfl

theorem Draft.isEmpty_document_iff {d : Draft} : d.document.isEmpty = true ↔ d = {} := by
  rcases d with ⟨game, steps, wine, system⟩
  simp [Draft.document, Document.isEmpty, ← GameSection.isEmpty_iff, ← WineSection.isEmpty_iff,
    ← SystemSection.isEmpty_iff, and_assoc]

/-- The document of operations is empty if and only if none of them asks for anything. -/
theorem isEmpty_document_requests_iff {os : List Operation} (h : ∀ o ∈ os, ∃ c, Asks o c) :
    (Draft.changes {} (os.filterMap request)).document.isEmpty = true ↔
      ∀ o ∈ os, isSilent o = true := by
  rw [Draft.isEmpty_document_iff, Draft.changes_eq_empty_iff, List.filterMap_eq_nil_iff]
  refine forall₂_congr fun o ho => ?_
  obtain ⟨c, hc⟩ := h o ho
  rw [request_of_asks hc, isSilent_iff]
  constructor
  · rintro rfl
    exact hc
  · intro hn
    have hsame : changeOf "" o = .ok none := changeOf_eq_of_asks hn
    rw [changeOf_eq_of_asks hc] at hsame
    exact Except.ok.inj hsame

/-! ### The JSON form -/

theorem isFilled_textsOutline {m : TextMap String} (h : m.isEmpty = false) :
    (Value.ofOutline (textsOutline m)).IsFilled := by
  refine Value.isFilled_fields ?_ fun p hp => ?_
  · simpa [TextMap.isEmpty] using h
  · obtain ⟨e, -, rfl⟩ := List.mem_map.1 hp
    exact Value.isFilled_text _

theorem isFilled_task (t : Task) : (Value.ofOutline t.outline).IsFilled := by
  refine Value.isFilled_fields (by simp) ?_
  rw [List.forall_mem_singleton]
  refine Value.isFilled_fields (by simp) ?_
  simp only [List.forall_mem_cons]
  exact ⟨Value.isFilled_text _, Value.isFilled_text _, List.forall_mem_nil _⟩

theorem GameSection.areFilled (g : GameSection) : AreFilled g.columns := by
  simp only [AreFilled, columns, List.forall_mem_cons]
  exact ⟨fun _ => Json.isFilled_of_map_eq_some Value.isFilled_text,
    fun _ => Json.isFilled_of_map_eq_some Value.isFilled_text, List.forall_mem_nil _⟩

theorem GameSection.isFilled {g : GameSection} (h : g ≠ {}) :
    (Value.ofOutline g.outline).IsFilled := by
  rw [outline_eq]
  refine Value.isFilled_fields (fun hnil => h ?_) g.areFilled.present
  rw [← GameSection.isEmpty_iff, isEmpty]
  simpa [columns, Json.present_eq_nil_iff] using hnil

theorem WineSection.areFilled (w : WineSection) : AreFilled w.columns := by
  simp only [AreFilled, columns, List.forall_mem_cons]
  exact ⟨fun _ => Json.isFilled_of_sparse_eq_some isFilled_textsOutline,
    fun _ => Json.isFilled_of_map_eq_some Value.isFilled_flag,
    fun _ => Json.isFilled_of_map_eq_some Value.isFilled_flag,
    fun _ => Json.isFilled_of_map_eq_some Value.isFilled_flag,
    fun _ => Json.isFilled_of_map_eq_some Value.isFilled_flag, List.forall_mem_nil _⟩

theorem WineSection.isFilled {w : WineSection} (h : w ≠ {}) :
    (Value.ofOutline w.outline).IsFilled := by
  rw [outline_eq]
  refine Value.isFilled_fields (fun hnil => h ?_) w.areFilled.present
  rw [← WineSection.isEmpty_iff, isEmpty]
  simpa [columns, Json.present_eq_nil_iff, Json.sparse, and_assoc] using hnil

theorem SystemSection.areFilled (s : SystemSection) : AreFilled s.columns := by
  simp only [AreFilled, columns, List.forall_mem_cons]
  exact ⟨fun _ => Json.isFilled_of_sparse_eq_some isFilled_textsOutline,
    fun _ => Json.isFilled_of_map_eq_some Value.isFilled_flag,
    fun _ => Json.isFilled_of_map_eq_some Value.isFilled_text, List.forall_mem_nil _⟩

theorem SystemSection.isFilled {s : SystemSection} (h : s ≠ {}) :
    (Value.ofOutline s.outline).IsFilled := by
  rw [outline_eq]
  refine Value.isFilled_fields (fun hnil => h ?_) s.areFilled.present
  rw [← SystemSection.isEmpty_iff, isEmpty]
  simpa [columns, Json.present_eq_nil_iff, Json.sparse, and_assoc] using hnil

/-- What is written of a document without empty sections says something. -/
theorem Document.areFilled {d : Document}
    (h : d.game ≠ some {} ∧ d.wine ≠ some {} ∧ d.system ≠ some {}) : AreFilled d.columns := by
  have hsection {α : Type} {outline : α → Outline} {e : α} {x : Option α} (hx : x ≠ some e)
      (hfilled : ∀ a, a ≠ e → (Value.ofOutline (outline a)).IsFilled) (o : Outline)
      (ho : x.map outline = some o) : (Value.ofOutline o).IsFilled := by
    obtain ⟨a, rfl, rfl⟩ := Option.map_eq_some_iff.1 ho
    exact hfilled a fun e' => hx (e' ▸ rfl)
  have hsteps (hne : d.steps.isEmpty = false) :
      (Value.ofOutline (.items (d.steps.map Task.outline))).IsFilled := by
    refine Value.isFilled_items (by simpa using hne) fun o ho => ?_
    obtain ⟨t, -, rfl⟩ := List.mem_map.1 ho
    exact isFilled_task t
  simp only [AreFilled, columns, List.forall_mem_cons]
  exact ⟨hsection h.1 fun _ => GameSection.isFilled,
    fun _ => Json.isFilled_of_sparse_eq_some hsteps, hsection h.2.1 fun _ => WineSection.isFilled,
    hsection h.2.2 fun _ => SystemSection.isFilled, List.forall_mem_nil _⟩

theorem Document.present_columns_eq_nil_iff {d : Document} :
    Json.present d.columns = [] ↔ d.isEmpty = true := by
  simp [columns, Json.sparse, isEmpty, and_assoc]

/-- A document without empty sections is written as an object in which nothing is null or empty. -/
theorem exists_read_render {d : Document}
    (h : d.game ≠ some {} ∧ d.wine ≠ some {} ∧ d.system ≠ some {}) :
    ∃ members, Json.read? (Format.json.render d) = some (.object members) ∧
      (members = [] ↔ d.isEmpty = true) ∧
      ∀ v : Value, v.IsInside (.object members) → v.Speaks := by
  refine ⟨Value.ofFields (Json.present d.columns), ?_, ?_, fun v => ?_⟩
  · rw [Format.render, Json.read?_render, Document.outline_eq, Value.ofOutline]
  · rw [Value.ofFields_eq_map, List.map_eq_nil_iff, Document.present_columns_eq_nil_iff]
  · have hfilled := Value.isFilled_of_mem_ofFields (Document.areFilled h).present
    exact Value.speaks_of_isInside_object hfilled

/-- **Compiled documents are well-formed and sparse.** A document is empty if and only if all its
operations are silent, and its JSON form is an object in which nothing is null or empty, however
deep; the object itself is empty only for an empty document. -/
theorem compile_wellFormed (title : String) (os : List Operation) (d : Document)
    (h : compile title os = .ok d) :
    d.WellFormed ∧ (d.isEmpty = true ↔ ∀ o ∈ os, isSilent o = true) ∧
      ∃ members, Json.read? (Format.json.render d) = some (.object members) ∧
        (members = [] ↔ d.isEmpty = true) ∧
        ∀ v : Value, v.IsInside (.object members) → v ≠ .null ∧ v ≠ .array [] ∧ v ≠ .object [] := by
  obtain ⟨hasks, rfl⟩ := compile_eq_ok_iff.1 h
  have hd := describes_document hasks
  exact ⟨hd.wellFormed hasks, isEmpty_document_requests_iff hasks, exists_read_render hd.sparse⟩

/-- Two sections and a step, from operations of which one says an empty value and one nothing. -/
theorem compile_wellFormed_emptyValue :
    ∃ d, compile "Game" [.bare "use_seccomp", .call "set_cpu_topology_limit" " 2 ",
        .labelled "set_environment" "DXVK_ASYNC=", .labelled "protontricks" " xact ",
        .labelled "replace_command" "Launcher.exe=Game.exe"] = .ok d ∧
      d.WellFormed ∧ d.isEmpty = false := by
  have h : compile "Game" [.bare "use_seccomp", .call "set_cpu_topology_limit" " 2 ",
        .labelled "set_environment" "DXVK_ASYNC=", .labelled "protontricks" " xact ",
        .labelled "replace_command" "Launcher.exe=Game.exe"] =
      .ok { game := some { exe := some "Game.exe" }
            steps := [⟨"winetricks", "xact"⟩]
            system := some { env := .ofList [("DXVK_ASYNC", "")]
                             singleCpu := some true
                             limitCpuCount := some "2" } } := by decide +kernel
  exact ⟨_, h, (compile_wellFormed _ _ _ h).1, rfl⟩

end GameFixes.Installer
