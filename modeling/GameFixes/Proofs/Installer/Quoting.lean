import GameFixes.Proofs.Installer.Description
import GameFixes.Proofs.Script.LoneLiteral
import GameFixes.Proofs.Script.Meaning
import Mathlib.Data.List.Forall2

/-!
# Quoted and copied texts

The texts of a document that come from arguments of calls. Where the argument is one string literal,
the text is its value; where it is anything else, the text is the argument as the script has it.

* `Script.calls`: the calls that a script's operations come from;
* `isText_operation_iff`: what the text of a call is;
* `texts_of_compile`: the steps and the arguments of a script's document, call by call, and when all
  of them are values of literals.
-/

namespace GameFixes.Script

/-! ### The calls of a script -/

/-- The calls of an entry routine: those that its code lines start with, in their order. -/
def calls (ls : List (List Char)) : List Call :=
  (List.finRange ls.length).filterMap fun i => if IsCode ls i then Call.read? (ls.get i) else none

/-- Operations come from calls, but for the marker of other logic. -/
theorem meaning_eq_map_calls (ls : List (List Char)) :
    meaning ls = (calls ls).map Call.operation ++
      if HasLogic ls then [Operation.additionalFixes] else [] := by
  have hat : operationAt ls =
      fun i => (if IsCode ls i then Call.read? (ls.get i) else none).map Call.operation := by
    funext i
    refine Option.ext fun o => ?_
    rw [operationAt_eq_some_iff, Option.map_eq_some_iff]
    split_ifs with h
    · exact and_iff_right h
    · simp [h]
  rw [meaning, calls, List.map_filterMap, hat]

/-- A script's operations are those of its calls, and perhaps the marker after them. -/
theorem exists_operations_eq (source : String) : ∃ marker,
    operations source = (calls (routine source.toList)).map Call.operation ++ marker ∧
      ∀ o ∈ marker, o.name = "additional_fixes" := by
  refine ⟨if HasLogic (routine source.toList) then [Operation.additionalFixes] else [], ?_, ?_⟩
  · rw [operations, body_eq_routine, collect_readings, meaning_eq_map_calls]
  · split_ifs
    · exact List.forall_mem_singleton.2 rfl
    · simp

/-! ### Texts of calls -/

variable {c : Call} {text : String}

/-- The argument of a call is one string literal and nothing else, and `text` is its value without
the blanks around it. -/
def Call.IsQuoted (c : Call) (text : String) : Prop :=
  ∃ s v, c.argument = some s ∧ IsLiteral s v ∧ trimmed (String.ofList v) = text

/-- The argument of a call is something else, such as a name, an expression or several literals, and
`text` is what the script has there. -/
def Call.IsCopied (c : Call) (text : String) : Prop :=
  ∃ s, c.argument = some s ∧ s ≠ [] ∧ (∀ v, ¬ IsLiteral s v) ∧ trimmed (String.ofList s) = text

theorem IsLiteral.ne_nil {s v : List Char} (h : IsLiteral s v) : s ≠ [] := by
  rintro rfl
  obtain ⟨q, t, r, hs, -⟩ := h
  exact List.cons_ne_nil _ _ hs.symm

theorem IsLiteral.unique {s v w : List Char} (hv : IsLiteral s v) (hw : IsLiteral s w) : v = w := by
  have h := (literals?_eq_singleton_iff.2 hv).symm.trans (literals?_eq_singleton_iff.2 hw)
  simpa using h

theorem Call.IsCopied.unique {text' : String} (h : c.IsCopied text) (h' : c.IsCopied text') :
    text = text' := by
  obtain ⟨s, hs, -, -, rfl⟩ := h
  obtain ⟨s', hs', -, -, rfl⟩ := h'
  rw [Option.some.inj (hs.symm.trans hs')]

theorem Call.IsCopied.not_isQuoted {text' : String} (h : c.IsCopied text) :
    ¬ c.IsQuoted text' := by
  obtain ⟨s, hs, -, hl, -⟩ := h
  rintro ⟨s', v, hs', hv, -⟩
  obtain rfl := Option.some.inj (hs.symm.trans hs')
  exact hl v hv

/-- The text of a plain argument is the value of a literal, or else the argument as it is. -/
theorem text_plain_argument (s : List Char) :
    (∃ v, IsLiteral s v ∧ (ArgumentStyle.plain.argument s).text = String.ofList v) ∨
      ((∀ v, ¬ IsLiteral s v) ∧ (ArgumentStyle.plain.argument s).text = String.ofList s) := by
  unfold ArgumentStyle.argument
  split
  · contradiction
  · contradiction
  · next v _ hv => exact .inl ⟨v, literals?_eq_singleton_iff.1 hv, rfl⟩
  · next hne =>
    exact .inr ⟨fun v hv => hne v rfl (literals?_eq_singleton_iff.2 hv), rfl⟩

/-- The argument text of a call with plain arguments is quoted or copied. -/
theorem argumentText_operation_iff (hstyle : ArgumentStyle.ofName c.operation.name = .plain) :
    c.operation.argumentText.map trimmed = some text ↔ c.IsQuoted text ∨ c.IsCopied text := by
  obtain ⟨name, argument⟩ := c
  have htext : (Call.operation ⟨name, argument⟩).argumentText =
      (argument.filter (!·.isEmpty)).map fun s => (ArgumentStyle.plain.argument s).text := by
    rw [← hstyle, Operation.argumentText, Call.operation, Option.map_map]
    rfl
  rw [htext, Option.map_map, Option.map_eq_some_iff]
  simp only [Option.filter_eq_some_iff, Bool.not_eq_true', List.isEmpty_eq_false_iff,
    Function.comp_apply]
  constructor
  · rintro ⟨s, ⟨hs, hne⟩, rfl⟩
    rcases text_plain_argument s with ⟨v, hv, ht⟩ | ⟨hv, ht⟩
    · exact .inl ⟨s, v, hs, hv, by rw [ht]⟩
    · exact .inr ⟨s, hs, hne, hv, by rw [ht]⟩
  · rintro (⟨s, v, hs, hv, rfl⟩ | ⟨s, hs, hne, hv, rfl⟩)
    · rcases text_plain_argument s with ⟨w, hw, ht⟩ | ⟨hn, -⟩
      · exact ⟨s, ⟨hs, hv.ne_nil⟩, by rw [ht, hw.unique hv]⟩
      · exact absurd hv (hn v)
    · rcases text_plain_argument s with ⟨w, hw, -⟩ | ⟨-, ht⟩
      · exact absurd hw (hv w)
      · exact ⟨s, ⟨hs, hne⟩, by rw [ht]⟩

/-- Some call of a function quotes a text. -/
def IsQuotedIn (cs : List Call) (name text : String) : Prop :=
  ∃ c ∈ cs, c.operation.name = name ∧ c.IsQuoted text

/-- What a call copies is quoted by some call if and only if the text that it gives is. -/
theorem copied_isQuotedIn_iff {cs : List Call} {name : String} (hc : c ∈ cs)
    (hname : c.operation.name = name) (ht : c.IsQuoted text ∨ c.IsCopied text) :
    (∀ t, c.IsCopied t → IsQuotedIn cs name t) ↔ IsQuotedIn cs name text := by
  constructor
  · intro h
    rcases ht with ht | ht
    · exact ⟨c, hc, hname, ht⟩
    · exact h text ht
  · intro h t hcopied
    rcases ht with ht | ht
    · exact absurd ht hcopied.not_isQuoted
    · rwa [hcopied.unique ht]

end GameFixes.Script

namespace GameFixes.Installer

open Script (Call calls routine IsQuotedIn)

variable {source title : String} {d : Document}

/-- The texts of a document that come from arguments are values of literals: every step's and the
arguments of the game. -/
structure QuotesOnly (cs : List Call) (d : Document) : Prop where
  steps : ∀ t ∈ d.steps, IsQuotedIn cs "protontricks" t.app
  args : ∀ a, (d.game.getD {}).args = some a → IsQuotedIn cs "append_argument" a

/-- The text of an operation that asks for something is the one that it is asked for with. -/
theorem isText_of_asks {o : Operation} {c : Option Change} {text : String} (h : Asks o c)
    (hname : o.name = "append_argument") (ht : o.argumentText.map trimmed = some text) :
    IsText o text := by
  obtain ⟨a, ha⟩ := Slot.args.writes_of_isFor h hname
  obtain ⟨-, hmeans⟩ := Slot.args.means_of_writes h ha
  exact Option.some.inj (ht.symm.trans hmeans.1) ▸ hmeans

section Texts

variable (h : compile title (Script.operations source) = .ok d)

include h

/-- The document of a script has one step for each call for steps, in their order. -/
theorem steps_of_compile :
    List.Forall₂ (fun c (t : Task) => t.name = "winetricks" ∧ (c.IsQuoted t.app ∨ c.IsCopied t.app))
      ((calls (routine source.toList)).filter (·.operation.name = "protontricks")) d.steps := by
  obtain ⟨hasks, rfl⟩ := compile_eq_ok_iff.1 h
  obtain ⟨marker, hops, hmarker⟩ := Script.exists_operations_eq source
  have hsteps := (describes_document hasks).steps
  have hfilter : (Script.operations source).filter (·.name = "protontricks") =
      ((calls (routine source.toList)).filter
        (·.operation.name = "protontricks")).map Call.operation := by
    have hnil : marker.filter (·.name = "protontricks") = [] :=
      List.filter_eq_nil_iff.2 fun o ho => by simp [hmarker o ho]
    rw [hops, List.filter_append, hnil, List.append_nil, List.filter_map]
    rfl
  rw [hfilter, List.forall₂_map_left_iff] at hsteps
  -- a call for steps has plain arguments
  have hstyle : ∀ c ∈ (calls (routine source.toList)).filter (·.operation.name = "protontricks"),
      Script.ArgumentStyle.ofName c.operation.name = .plain := by
    intro c hc
    rw [of_decide_eq_true (List.mem_filter.1 hc).2]
    decide
  exact ((List.forall₂_and_left _ _).2 ⟨hstyle, hsteps⟩).imp fun c t ⟨hplain, hname, htext⟩ =>
    ⟨hname, (Script.argumentText_operation_iff hplain).1 htext.1⟩

/-- The arguments of a script's document are those that the last call for them says. -/
theorem args_of_compile (a : String) : (d.game.getD {}).args = some a ↔
    ∃ c, IsLast (·.operation.name = "append_argument") (calls (routine source.toList)) c ∧
      (c.IsQuoted a ∨ c.IsCopied a) := by
  obtain ⟨hasks, rfl⟩ := compile_eq_ok_iff.1 h
  obtain ⟨marker, hops, hmarker⟩ := Script.exists_operations_eq source
  have hlast : ∀ o, IsLast (·.name = "append_argument") (Script.operations source) o ↔
      IsLast (·.name = "append_argument")
        ((calls (routine source.toList)).map Call.operation) o := by
    intro o
    rw [hops]
    exact isLast_append_iff fun x hx => by simp [hmarker x hx]
  rw [(describes_document hasks).args]
  simp only [hlast]
  rw [exists_isLast_map_iff]
  refine exists_congr fun c => and_congr_right fun hc => ?_
  have hname : c.operation.name = "append_argument" := hc.prop
  rw [← Script.argumentText_operation_iff (by rw [hname]; decide)]
  refine ⟨And.left, fun ht => ?_⟩
  obtain ⟨x, hx⟩ := hasks c.operation (by
    rw [hops]
    exact List.mem_append_left marker (List.mem_map_of_mem hc.mem))
  exact isText_of_asks hx hname ht

/-- **The texts of a script's document are those that its calls quote, and those that they copy.**
There is one step for each call for steps, and the last call for arguments gives the arguments,
whether their own argument is a literal or not. So all texts are values of literals if and only if
what is copied is quoted as well. -/
theorem texts_of_compile :
    List.Forall₂ (fun c (t : Task) => t.name = "winetricks" ∧ (c.IsQuoted t.app ∨ c.IsCopied t.app))
      ((calls (routine source.toList)).filter (·.operation.name = "protontricks")) d.steps ∧
    (∀ a, (d.game.getD {}).args = some a ↔
      ∃ c, IsLast (·.operation.name = "append_argument") (calls (routine source.toList)) c ∧
        (c.IsQuoted a ∨ c.IsCopied a)) ∧
    (QuotesOnly (calls (routine source.toList)) d ↔
      (∀ c ∈ calls (routine source.toList), c.operation.name = "protontricks" →
        ∀ text, c.IsCopied text →
          IsQuotedIn (calls (routine source.toList)) "protontricks" text) ∧
      ∀ c, IsLast (·.operation.name = "append_argument") (calls (routine source.toList)) c →
        ∀ text, c.IsCopied text →
          IsQuotedIn (calls (routine source.toList)) "append_argument" text) := by
  have hsteps := steps_of_compile h
  have hargs := args_of_compile h
  refine ⟨hsteps, hargs, ?_⟩
  generalize calls (routine source.toList) = cs at hsteps hargs
  have happs := forall_mem_iff_of_forall₂ hsteps
    (p := fun c => ∀ text, c.IsCopied text → IsQuotedIn cs "protontricks" text)
    (q := fun t => IsQuotedIn cs "protontricks" t.app) fun c hc t ht => by
      obtain ⟨hmem, hname⟩ := List.mem_filter.1 hc
      exact Script.copied_isQuotedIn_iff hmem (of_decide_eq_true hname) ht.2
  simp only [List.mem_filter, decide_eq_true_eq, and_imp] at happs
  rw [happs]
  constructor
  · intro hq
    refine ⟨hq.steps, fun c hc text hcopied => ?_⟩
    exact hq.args text ((hargs text).2 ⟨c, hc, .inr hcopied⟩)
  · rintro ⟨hs, ha⟩
    refine ⟨hs, fun a hda => ?_⟩
    obtain ⟨c, hc, ht⟩ := (hargs a).1 hda
    exact (Script.copied_isQuotedIn_iff hc.mem hc.prop ht).1 (ha c hc)

end Texts

/-- One step, whose verb is the value of a literal without the blanks around it. -/
theorem texts_of_compile_quoted :
    compile "Game" (Script.operations "def main():\n    util.protontricks(' corefonts ')\n") =
        .ok { steps := [⟨"winetricks", "corefonts"⟩] } ∧
      QuotesOnly (calls (routine "def main():\n    util.protontricks(' corefonts ')\n".toList))
        { steps := [⟨"winetricks", "corefonts"⟩] } := by
  have h : compile "Game"
      (Script.operations "def main():\n    util.protontricks(' corefonts ')\n") =
      .ok { steps := [⟨"winetricks", "corefonts"⟩] } := by decide +kernel
  have hcalls : calls (routine "def main():\n    util.protontricks(' corefonts ')\n".toList) =
      [⟨"protontricks".toList, some "' corefonts '".toList⟩] := by decide +kernel
  have hlit : Script.IsLiteral "' corefonts '".toList " corefonts ".toList :=
    Script.literals?_eq_singleton_iff.1 (by decide +kernel)
  refine ⟨h, (texts_of_compile h).2.2.2 ?_⟩
  rw [hcalls]
  constructor
  · intro c hc _ text hcopied
    obtain rfl := List.mem_singleton.1 hc
    exact absurd ⟨_, _, rfl, hlit, rfl⟩ hcopied.not_isQuoted
  · intro c hc
    obtain rfl := List.mem_singleton.1 hc.mem
    exact absurd hc.prop (by decide)

/-- The name of a variable becomes the verb of a step. -/
theorem not_forall_quotesOnly : ¬ ∀ source title d,
    compile title (Script.operations source) = .ok d →
      QuotesOnly (calls (routine source.toList)) d := by
  intro h
  have hquotes := h "def main():\n    util.protontricks(verb)\n" "Game"
    { steps := [⟨"winetricks", "verb"⟩] } (by decide +kernel)
  have hcalls : calls (routine "def main():\n    util.protontricks(verb)\n".toList) =
      [⟨"protontricks".toList, some "verb".toList⟩] := by decide +kernel
  rw [hcalls] at hquotes
  obtain ⟨c, hc, -, s, v, hs, hv, -⟩ := hquotes.steps _ (List.mem_singleton.2 rfl)
  obtain rfl := List.mem_singleton.1 hc
  obtain rfl := Option.some.inj hs
  have hnone : Script.literals? "verb".toList = none := by decide +kernel
  have hread := Script.literals?_eq_singleton_iff.2 hv
  rw [hnone] at hread
  cases hread

end GameFixes.Installer
