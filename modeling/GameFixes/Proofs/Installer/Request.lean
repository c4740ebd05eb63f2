import GameFixes.Installer.Compile
import GameFixes.Proofs.Text

/-!
# What an operation asks for

One operation is compiled on its own. `Asks o c` says which change it asks for, and
`Offends title o e` says what is wrong with it, from its name and its argument alone.

* `asks_or_offends`: every operation asks for something or offends;
* `changeOf_eq_ok_iff`: compiling an operation gives exactly what it asks for, if it gives anything.
-/

namespace GameFixes.Installer

variable {o : Operation} {title : String}

/-! ### Arguments -/

/-- The argument text of an operation is missing or blank. -/
def LacksText (o : Operation) : Prop :=
  ∀ text, o.argumentText = some text → ∀ c ∈ text.toList, Text.isBlank c = true

/-- `text` is the argument text of an operation, trimmed, and not empty. -/
def IsText (o : Operation) (text : String) : Prop :=
  o.argumentText.map trimmed = some text ∧ text ≠ ""

/-- The argument of an operation is labelled, and its first `=` stands between `key` and `value`. -/
def IsPair (o : Operation) (key value : String) : Prop :=
  o.argument = some (.labelled (key ++ "=" ++ value)) ∧ '=' ∉ key.toList

/-- The argument of an operation is no pair with a key. -/
def LacksPair (o : Operation) : Prop := ∀ key value, IsPair o key value → key = ""

/-- `exe` is what an operation replaces the executable by: what follows the first `=` of a labelled
argument, or else, if there is no `=` or nothing after it, the whole trimmed text. -/
def IsReplacement (o : Operation) (exe : String) : Prop :=
  (exe ≠ "" ∧ ∃ key, IsPair o key exe) ∨
    ((∀ key value, IsPair o key value → value = "") ∧ IsText o exe)

theorem lacksText_or_isText (o : Operation) : LacksText o ∨ ∃ text, IsText o text := by
  cases h : o.argumentText with
  | none =>
    refine Or.inl fun text ht => ?_
    rw [h] at ht
    cases ht
  | some text =>
    by_cases ht : trimmed text = ""
    · refine Or.inl fun text' ht' => ?_
      obtain rfl : text = text' := Option.some.inj (h.symm.trans ht')
      exact trimmed_eq_empty_iff.1 ht
    · exact Or.inr ⟨trimmed text, by rw [h, Option.map_some], ht⟩

theorem keyValue_eq_some_iff {key value : String} :
    o.keyValue = some (key, value) ↔ IsPair o key value := by
  unfold Operation.keyValue IsPair
  rcases o with ⟨name, _ | text | raw⟩
  · simp
  · simp only [Option.map_eq_some_iff, Prod.exists, Option.some.injEq, Argument.labelled.injEq,
      Prod.mk.injEq, Text.splitFirst?_singleton_iff]
    constructor
    · rintro ⟨k, v, ⟨hs, hk⟩, rfl, rfl⟩
      refine ⟨String.toList_inj.1 ?_, by simpa using hk⟩
      simp [hs]
    · rintro ⟨rfl, hk⟩
      exact ⟨key.toList, value.toList, ⟨by simp, hk⟩, by simp, by simp⟩
  · simp

theorem requiredText_of_isText {text : String} (h : IsText o text) :
    requiredText o = .ok text := by
  unfold requiredText
  rw [h.1, Option.filter_some, if_pos (by simpa using h.2)]

theorem requiredText_of_lacksText (h : LacksText o) : requiredText o = .error .missingArgument := by
  unfold requiredText
  cases ht : o.argumentText with
  | none => rfl
  | some text =>
    rw [Option.map_some, trimmed_eq_empty_iff.2 (h text ht)]
    rfl

theorem lacksText_iff : LacksText o ↔ ∀ text, ¬ IsText o text := by
  constructor
  · intro h text ht
    have hr := requiredText_of_isText ht
    rw [requiredText_of_lacksText h] at hr
    cases hr
  · intro h
    exact (lacksText_or_isText o).resolve_right (not_exists.2 h)

theorem requiredPair_of_isPair {key value : String} (h : IsPair o key value) (hk : key ≠ "") :
    requiredPair o = .ok (key, value) := by
  unfold requiredPair
  rw [keyValue_eq_some_iff.2 h, Option.filter_some, if_pos (by simpa using hk)]

theorem requiredPair_of_lacksPair (h : LacksPair o) : requiredPair o = .error .expectedKeyValue := by
  unfold requiredPair
  cases hp : o.keyValue with
  | none => rfl
  | some p =>
    have hk : p.1 = "" := h p.1 p.2 (keyValue_eq_some_iff.1 hp)
    rw [Option.filter_some, if_neg (by simp [hk])]

theorem replacement_of_isReplacement {exe : String} (h : IsReplacement o exe) :
    replacement o = .ok exe := by
  unfold replacement
  rcases h with ⟨he, key, hp⟩ | ⟨hv, ht⟩
  · rw [keyValue_eq_some_iff.2 hp, Option.filter_some, if_pos (by simpa using he)]
  · cases hp : o.keyValue with
    | none => exact requiredText_of_isText ht
    | some p =>
      have hp : p.2 = "" := hv p.1 p.2 (keyValue_eq_some_iff.1 hp)
      rw [Option.filter_some, if_neg (by simp [hp])]
      exact requiredText_of_isText ht

/-- A text with an `=` is not blank, so an operation without argument text has no pair. -/
theorem not_isPair_of_lacksText (h : LacksText o) (key value : String) : ¬ IsPair o key value := by
  rintro ⟨ha, -⟩
  have hb := h (key ++ "=" ++ value) (by rw [Operation.argumentText, ha]; rfl) '=' (by simp)
  exact absurd hb (by decide)

theorem replacement_of_lacksText (h : LacksText o) : replacement o = .error .missingArgument := by
  unfold replacement
  cases hp : o.keyValue with
  | none => exact requiredText_of_lacksText h
  | some p => exact absurd (keyValue_eq_some_iff.1 hp) (not_isPair_of_lacksText h p.1 p.2)

theorem lacksText_or_isReplacement (o : Operation) :
    LacksText o ∨ ∃ exe, IsReplacement o exe := by
  by_cases hp : ∃ key exe, IsPair o key exe ∧ exe ≠ ""
  · obtain ⟨key, exe, hp, he⟩ := hp
    exact Or.inr ⟨exe, Or.inl ⟨he, key, hp⟩⟩
  · rcases lacksText_or_isText o with h | ⟨text, h⟩
    · exact Or.inl h
    · refine Or.inr ⟨text, Or.inr ⟨fun key value h' => ?_, h⟩⟩
      by_contra hne
      exact hp ⟨key, value, h', hne⟩

/-! ### Requests and offences -/

/-- The names of the operations that change nothing: those for the host runtime only, and those that
cannot be said in a document. -/
def silentNames : List String :=
  ["set_ini_options", "regedit_add", "disable_protonaudioconverter", "additional_fixes",
    "use_seccomp", "_mk_syswow64", "create_dosbox_conf", "set_cpu_topology_nosmt",
    "set_xml_options", "disable_uplay_overlay", "disable_nvapi"]

/-- What an operation asks for. -/
inductive Asks (o : Operation) : Option Change → Prop
  | addStep {verb : String} (name : o.name = "protontricks") (text : IsText o verb) :
      Asks o (some (.addStep verb))
  | setArgs {args : String} (name : o.name = "append_argument") (text : IsText o args) :
      Asks o (some (.setArgs args))
  | setExe {exe : String} (name : o.name = "replace_command") (text : IsReplacement o exe) :
      Asks o (some (.setExe exe))
  | overrideDll {dll mode : String} (name : o.name = "winedll_override")
      (pair : IsPair o dll mode) (key : dll ≠ "") : Asks o (some (.overrideDll dll mode))
  | setVariable {var value : String} (name : o.name = "set_environment")
      (pair : IsPair o var value) (key : var ≠ "") : Asks o (some (.setVariable var value))
  | enableEac (name : o.name = "install_eac_runtime") : Asks o (some .enableEac)
  | enableBattleye (name : o.name = "install_battleye_runtime") : Asks o (some .enableBattleye)
  | disableEsync (name : o.name = "disable_esync") : Asks o (some .disableEsync)
  | disableFsync (name : o.name = "disable_fsync") : Asks o (some .disableFsync)
  | limitCpus {count : String} (name : o.name = "set_cpu_topology_limit") (text : IsText o count) :
      Asks o (some (.limitCpus count))
  | nothing (name : o.name ∈ silentNames) : Asks o none

/-- What is wrong with an operation. -/
inductive Offends (title : String) (o : Operation) : CompileError → Prop
  /-- Its name is none of the known ones. -/
  | unhandled (name : ∀ k : Known, o.name ≠ k.name) : Offends title o (.unhandled o.text title)
  /-- It needs an argument, and has none or a blank one. -/
  | missingArgument (name : o.name ∈ ["protontricks", "append_argument", "replace_command",
        "set_cpu_topology_limit"]) (text : LacksText o) :
      Offends title o (.malformed o.text title .missingArgument)
  /-- It needs a pair, and its argument is none. -/
  | expectedKeyValue (name : o.name ∈ ["winedll_override", "set_environment"])
      (pair : LacksPair o) : Offends title o (.malformed o.text title .expectedKeyValue)

theorem lacksPair_or_isPair (o : Operation) :
    LacksPair o ∨ ∃ key value, IsPair o key value ∧ key ≠ "" := by
  by_cases hp : ∃ key value, IsPair o key value ∧ key ≠ ""
  · exact Or.inr hp
  · refine Or.inl fun key value h => ?_
    by_contra hne
    exact hp ⟨key, value, h, hne⟩

/-- Every operation asks for something or offends. -/
theorem asks_or_offends (title : String) (o : Operation) :
    (∃ c, Asks o c) ∨ ∃ e, Offends title o e := by
  by_cases hn : ∃ k : Known, o.name = k.name
  · obtain ⟨k, hn⟩ := hn
    cases k with
    | protontricks =>
      rcases lacksText_or_isText o with h | ⟨text, h⟩
      · exact Or.inr ⟨_, .missingArgument (by simp [hn, Known.name]) h⟩
      · exact Or.inl ⟨_, .addStep hn h⟩
    | appendArgument =>
      rcases lacksText_or_isText o with h | ⟨text, h⟩
      · exact Or.inr ⟨_, .missingArgument (by simp [hn, Known.name]) h⟩
      · exact Or.inl ⟨_, .setArgs hn h⟩
    | setCpuTopologyLimit =>
      rcases lacksText_or_isText o with h | ⟨text, h⟩
      · exact Or.inr ⟨_, .missingArgument (by simp [hn, Known.name]) h⟩
      · exact Or.inl ⟨_, .limitCpus hn h⟩
    | replaceCommand =>
      rcases lacksText_or_isReplacement o with h | ⟨exe, h⟩
      · exact Or.inr ⟨_, .missingArgument (by simp [hn, Known.name]) h⟩
      · exact Or.inl ⟨_, .setExe hn h⟩
    | winedllOverride =>
      rcases lacksPair_or_isPair o with h | ⟨dll, mode, h, hk⟩
      · exact Or.inr ⟨_, .expectedKeyValue (by simp [hn, Known.name]) h⟩
      · exact Or.inl ⟨_, .overrideDll hn h hk⟩
    | setEnvironment =>
      rcases lacksPair_or_isPair o with h | ⟨key, value, h, hk⟩
      · exact Or.inr ⟨_, .expectedKeyValue (by simp [hn, Known.name]) h⟩
      · exact Or.inl ⟨_, .setVariable hn h hk⟩
    | installEacRuntime => exact Or.inl ⟨_, .enableEac hn⟩
    | installBattleyeRuntime => exact Or.inl ⟨_, .enableBattleye hn⟩
    | disableEsync => exact Or.inl ⟨_, .disableEsync hn⟩
    | disableFsync => exact Or.inl ⟨_, .disableFsync hn⟩
    | setIniOptions | regeditAdd | disableProtonAudioConverter | additionalFixes | useSeccomp
    | makeSyswow64 | createDosboxConf | setCpuTopologyNosmt | setXmlOptions | disableUplayOverlay
    | disableNvapi => exact Or.inl ⟨none, .nothing (by simp [hn, Known.name, silentNames])⟩
  · exact Or.inr ⟨_, .unhandled (not_exists.1 hn)⟩

/-! ### Compiling one operation -/

theorem changeOf_eq_of_apply {k : Known} {change : Operation → Except Fault Change} {c : Change}
    (hn : o.name = k.name) (hr : k.rule = .apply change) (hc : change o = .ok c) :
    changeOf title o = .ok (some c) := by
  simp [changeOf, hn, hr, hc]

theorem changeOf_eq_of_fault {k : Known} {change : Operation → Except Fault Change} {fault : Fault}
    (hn : o.name = k.name) (hr : k.rule = .apply change) (hc : change o = .error fault) :
    changeOf title o = .error (.malformed o.text title fault) := by
  simp [changeOf, hn, hr, hc]

theorem exists_rule_of_mem_silentNames {name : String} (h : name ∈ silentNames) :
    ∃ k : Known, name = k.name ∧ (k.rule = .hostOnly ∨ k.rule = .deferred) := by
  revert name
  simp only [silentNames, List.forall_mem_cons]
  exact ⟨⟨.setIniOptions, rfl, Or.inr rfl⟩, ⟨.regeditAdd, rfl, Or.inr rfl⟩,
    ⟨.disableProtonAudioConverter, rfl, Or.inl rfl⟩, ⟨.additionalFixes, rfl, Or.inl rfl⟩,
    ⟨.useSeccomp, rfl, Or.inl rfl⟩, ⟨.makeSyswow64, rfl, Or.inl rfl⟩,
    ⟨.createDosboxConf, rfl, Or.inl rfl⟩, ⟨.setCpuTopologyNosmt, rfl, Or.inl rfl⟩,
    ⟨.setXmlOptions, rfl, Or.inl rfl⟩, ⟨.disableUplayOverlay, rfl, Or.inl rfl⟩,
    ⟨.disableNvapi, rfl, Or.inl rfl⟩, by simp⟩

theorem changeOf_eq_of_asks {c : Option Change} (h : Asks o c) : changeOf title o = .ok c := by
  cases h with
  | addStep name text =>
    refine changeOf_eq_of_apply (k := .protontricks) name rfl ?_
    rw [requiredText_of_isText text]
    rfl
  | setArgs name text =>
    refine changeOf_eq_of_apply (k := .appendArgument) name rfl ?_
    rw [requiredText_of_isText text]
    rfl
  | setExe name text =>
    refine changeOf_eq_of_apply (k := .replaceCommand) name rfl ?_
    rw [replacement_of_isReplacement text]
    rfl
  | overrideDll name pair key =>
    refine changeOf_eq_of_apply (k := .winedllOverride) name rfl ?_
    rw [requiredPair_of_isPair pair key]
    rfl
  | setVariable name pair key =>
    refine changeOf_eq_of_apply (k := .setEnvironment) name rfl ?_
    rw [requiredPair_of_isPair pair key]
    rfl
  | enableEac name => exact changeOf_eq_of_apply (k := .installEacRuntime) name rfl rfl
  | enableBattleye name => exact changeOf_eq_of_apply (k := .installBattleyeRuntime) name rfl rfl
  | disableEsync name => exact changeOf_eq_of_apply (k := .disableEsync) name rfl rfl
  | disableFsync name => exact changeOf_eq_of_apply (k := .disableFsync) name rfl rfl
  | limitCpus name text =>
    refine changeOf_eq_of_apply (k := .setCpuTopologyLimit) name rfl ?_
    rw [requiredText_of_isText text]
    rfl
  | nothing name =>
    obtain ⟨k, hn, hr⟩ := exists_rule_of_mem_silentNames name
    rcases hr with hr | hr <;> simp [changeOf, hn, hr]

theorem changeOf_eq_of_offends {e : CompileError} (h : Offends title o e) :
    changeOf title o = .error e := by
  cases h with
  | unhandled name =>
    have hn : Known.ofName? o.name = none := by
      unfold Known.ofName?
      rw [List.find?_eq_none]
      intro k _ hk
      exact name k (of_decide_eq_true hk).symm
    simp [changeOf, hn]
  | missingArgument name text =>
    have ht := requiredText_of_lacksText text
    simp only [List.mem_cons, List.not_mem_nil, or_false] at name
    rcases name with name | name | name | name
    · exact changeOf_eq_of_fault (k := .protontricks) name rfl (by rw [ht]; rfl)
    · exact changeOf_eq_of_fault (k := .appendArgument) name rfl (by rw [ht]; rfl)
    · exact changeOf_eq_of_fault (k := .replaceCommand) name rfl
        (by rw [replacement_of_lacksText text]; rfl)
    · exact changeOf_eq_of_fault (k := .setCpuTopologyLimit) name rfl (by rw [ht]; rfl)
  | expectedKeyValue name pair =>
    have hp := requiredPair_of_lacksPair pair
    simp only [List.mem_cons, List.not_mem_nil, or_false] at name
    rcases name with name | name
    · exact changeOf_eq_of_fault (k := .winedllOverride) name rfl (by rw [hp]; rfl)
    · exact changeOf_eq_of_fault (k := .setEnvironment) name rfl (by rw [hp]; rfl)

/-- An operation compiles to what it asks for. -/
theorem changeOf_eq_ok_iff {c : Option Change} : changeOf title o = .ok c ↔ Asks o c := by
  refine ⟨fun h => ?_, changeOf_eq_of_asks⟩
  rcases asks_or_offends title o with ⟨c', hc⟩ | ⟨e, he⟩
  · rw [changeOf_eq_of_asks hc] at h
    cases h
    exact hc
  · rw [changeOf_eq_of_offends he] at h
    cases h

/-- Whether an operation is known but changes nothing: it is for the host runtime only, or cannot be
said in a document. -/
def isSilent (o : Operation) : Bool :=
  match (Known.ofName? o.name).map Known.rule with
  | some .hostOnly | some .deferred => true
  | _ => false

theorem changeOf_eq_none_iff : changeOf title o = .ok none ↔ isSilent o = true := by
  unfold changeOf isSilent
  cases Known.ofName? o.name with
  | none => simp
  | some known =>
    cases hr : known.rule with
    | apply change => cases hc : change o <;> simp [hr, hc]
    | hostOnly | deferred => simp [hr]

/-- The silent operations are those that ask for nothing. -/
theorem isSilent_iff : isSilent o = true ↔ Asks o none := by
  have h : changeOf "" o = .ok none ↔ isSilent o = true := changeOf_eq_none_iff
  rw [← h, changeOf_eq_ok_iff]

/-- The text of the operation that an error is about. -/
def CompileError.operation : CompileError → String
  | .unhandled operation _ => operation
  | .malformed operation _ _ => operation

/-- An error names its operation by the canonical text. -/
theorem operation_of_offends {e : CompileError} (h : Offends title o e) : e.operation = o.text := by
  cases h <;> rfl

theorem Offends.unique {e e' : CompileError} (h : Offends title o e) (h' : Offends title o e') :
    e = e' :=
  Except.error.inj ((changeOf_eq_of_offends h).symm.trans (changeOf_eq_of_offends h'))

end GameFixes.Installer
