import GameFixes.Proofs.Installer.Description
import GameFixes.Proofs.Script.Meaning
import GameFixes.Proofs.Script.WrittenCall

/-!
# Calls with a pair

Some functions are called with a key and a value. The two literals of such a call become one value
with an `=` between them, and the compiler cuts it again at the first `=` that it finds there:

* `isReplacement_pair_iff`: an executable is the value of the call only if the cut is where the
  literals met;
* `compile_pair_eq_ok_iff`: so is the document of such an operation;
* `compile_pairCall_iff`: a script with one such call has the document that says its key and its
  value if and only if the key has no `=`.
-/

namespace GameFixes.Installer

open Operation

/-- The functions that are called with a key and a value. -/
inductive PairFunction
  | overrideDll
  | setVariable
  | replaceExe
  deriving DecidableEq

/-- The name of a function in scripts. -/
def PairFunction.name : PairFunction → String
  | .overrideDll => "winedll_override"
  | .setVariable => "set_environment"
  | .replaceExe => "replace_command"

/-- The document that says the key and the value of a call, and nothing else. -/
def PairFunction.document (key value : String) : PairFunction → Document
  | .overrideDll => { wine := some { overrides := (∅ : TextMap String).insert key value } }
  | .setVariable => { system := some { env := (∅ : TextMap String).insert key value } }
  | .replaceExe => { game := some { exe := some value } }

/-! ### One operation -/

/-- One operation with what it asks for has the document of that change. -/
theorem compile_singleton_of_asks {title : String} {o : Operation} {c : Change}
    (h : Asks o (some c)) : compile title [o] = .ok (Draft.changes {} [c]).document := by
  have hasks : ∀ x ∈ [o], ∃ c, Asks x c := List.forall_mem_singleton.2 ⟨_, h⟩
  rw [compile_eq_ok_iff.2 ⟨hasks, rfl⟩, List.filterMap_cons, request_of_asks h]
  rfl

variable {name key value : String}

theorem isPair_pair_iff :
    IsPair (labelled name (key ++ "=" ++ value)) key value ↔ '=' ∉ key.toList :=
  ⟨fun h => h.2, fun h => ⟨rfl, h⟩⟩

theorem exists_isPair_pair (name key value : String) :
    ∃ k v, IsPair (labelled name (key ++ "=" ++ value)) k v := by
  have hsign : '=' ∈ (key ++ "=" ++ value).toList := by simp
  obtain ⟨k, v, hkv, hk⟩ := List.eq_append_cons_of_mem hsign
  have htext : key ++ "=" ++ value = String.ofList k ++ "=" ++ String.ofList v :=
    String.toList_inj.1 (hkv.trans (by simp))
  exact ⟨_, _, congrArg (fun text => some (Argument.labelled text)) htext, by simpa using hk⟩

/-- The value of a pair is what an executable is replaced by if the key has no `=`. -/
theorem isReplacement_pair_iff (hv : value ≠ "") :
    IsReplacement (labelled name (key ++ "=" ++ value)) value ↔ '=' ∉ key.toList := by
  constructor
  · rintro (⟨-, k, hp⟩ | ⟨hno, -⟩)
    · have htext : key ++ "=" ++ value = k ++ "=" ++ value :=
        Argument.labelled.inj (Option.some.inj hp.1)
      obtain rfl : key = k := by simpa using htext
      exact hp.2
    · -- the first `=` would be the last character of the text, behind the key and its own `=`
      obtain ⟨k, v, hp⟩ := exists_isPair_pair name key value
      obtain rfl := hno k v hp
      obtain ⟨w, x, hw⟩ := List.eq_nil_or_concat value.toList |>.resolve_left (by simpa using hv)
      have htext : key.toList ++ '=' :: w ++ [x] = k.toList ++ ['='] := by
        have := congrArg String.toList (Argument.labelled.inj (Option.some.inj hp.1))
        simpa [hw] using this
      have hk : '=' ∈ k.toList := by
        rw [← (List.append_inj' htext rfl).1]
        simp
      exact absurd hk hp.2
  · intro h
    exact Or.inl ⟨hv, key, isPair_pair_iff.2 h⟩

/-- The operation of a call with a pair has the document that says the pair if the key has no
`=`. -/
theorem compile_pair_eq_ok_iff {title : String} (f : PairFunction) (hk : key ≠ "")
    (hv : value ≠ "") :
    compile title [labelled f.name (key ++ "=" ++ value)] = .ok (f.document key value) ↔
      '=' ∉ key.toList := by
  constructor
  · intro h
    obtain ⟨hasks, hdoc⟩ := compile_eq_ok_iff.1 h
    have hd := hdoc ▸ describes_document hasks
    -- the document says the key and the value, so the operation does
    cases f with
    | overrideDll =>
      obtain ⟨o, hl, hp⟩ := (hd.overrides key value).1 (by simp [PairFunction.document])
      exact isPair_pair_iff.1 (List.mem_singleton.1 hl.mem ▸ hp)
    | setVariable =>
      obtain ⟨o, hl, hp⟩ := (hd.env key value).1 (by simp [PairFunction.document])
      exact isPair_pair_iff.1 (List.mem_singleton.1 hl.mem ▸ hp)
    | replaceExe =>
      obtain ⟨o, hl, hr⟩ := (hd.exe value).1 rfl
      exact (isReplacement_pair_iff hv).1 (List.mem_singleton.1 hl.mem ▸ hr)
  · intro h
    cases f with
    | overrideDll => exact compile_singleton_of_asks (.overrideDll rfl (isPair_pair_iff.2 h) hk)
    | setVariable => exact compile_singleton_of_asks (.setVariable rfl (isPair_pair_iff.2 h) hk)
    | replaceExe => exact compile_singleton_of_asks (.setExe rfl ((isReplacement_pair_iff hv).2 h))

/-! ### One call -/

/-- A call of such a function, with a key and a value of one line each. -/
structure PairCall where
  function : PairFunction
  key : Script.WrittenLiteral
  value : Script.WrittenLiteral
  key_feed : '\n' ∉ key.value
  value_feed : '\n' ∉ value.value
  key_ne_nil : key.value ≠ []
  value_ne_nil : value.value ≠ []

namespace PairCall

variable (c : PairCall)

/-- The call as it is written in a script. -/
def call : Script.WrittenCall where
  indent := List.replicate 4 ' '
  name := c.function.name.toList
  arguments := [c.key, c.value]
  indent_blank := fun x hx => by
    rw [List.eq_of_mem_replicate hx]
    rfl
  indent_feed := by simp
  isIdentifier_name := by cases c.function <;> decide
  value_feed := by simp [c.key_feed, c.value_feed]

/-- The document that says the key and the value of the call, and nothing else. -/
def document : Document :=
  c.function.document (String.ofList c.key.value) (String.ofList c.value.value)

theorem operation_call : c.call.operation = labelled c.function.name
    (String.ofList c.key.value ++ "=" ++ String.ofList c.value.value) := by
  show Script.writtenOperation (String.ofList c.function.name.toList) [c.key, c.value] = _
  rw [String.ofList_toList]
  cases c.function <;> rfl

end PairCall

/-- **A script with one call of a key and a value has the document that says them if and only if
the key has no `=`.** -/
theorem compile_pairCall_iff (c : PairCall) (title : String) {source : String}
    (h : Script.routine source.toList = [c.call.text]) :
    compile title (Script.operations source) = .ok c.document ↔ '=' ∉ c.key.value := by
  have hbody : Script.body source.toList = [c.call].map Script.WrittenCall.text :=
    (Script.body_eq_routine _).trans h
  have hops : Script.operations source = [c.call.operation] := Script.operations_of_body hbody
  have hk : String.ofList c.key.value ≠ "" := by simpa using c.key_ne_nil
  have hv : String.ofList c.value.value ≠ "" := by simpa using c.value_ne_nil
  rw [hops, c.operation_call, PairCall.document, compile_pair_eq_ok_iff c.function hk hv,
    String.toList_ofList]

/-- A variable whose value has an `=` and a quote character in it. -/
theorem compile_pairCall_variable :
    Script.routine "def main():\n    util.set_environment('OPT', \"a=\\'b\\'\")\n".toList =
        ["util.set_environment('OPT', \"a=\\'b\\'\")".toList] ∧
      compile "Game" (Script.operations
          "def main():\n    util.set_environment('OPT', \"a=\\'b\\'\")\n") =
        .ok { system := some { env := (∅ : TextMap String).insert "OPT" "a='b'" } } := by
  have h : Script.routine "def main():\n    util.set_environment('OPT', \"a=\\'b\\'\")\n".toList =
      ["util.set_environment('OPT', \"a=\\'b\\'\")".toList] := by decide +kernel
  exact ⟨h, (compile_pairCall_iff ⟨.setVariable, ⟨'\'', "OPT".toList, rfl⟩,
    ⟨'"', "a='b'".toList, rfl⟩, by decide, by decide, by decide, by decide⟩ "Game" h).2 (by decide)⟩

/-- Some keys have an `=`, and then the document says something else. -/
theorem not_forall_compile_pairCall :
    ¬ ∀ (c : PairCall) (title source : String), Text.trim c.key.value = c.key.value →
      Text.trim c.value.value = c.value.value → Script.routine source.toList = [c.call.text] →
      compile title (Script.operations source) = .ok c.document := by
  intro h
  have hcompile := h ⟨.replaceExe, ⟨'\'', "a=b".toList, rfl⟩, ⟨'\'', "c".toList, rfl⟩,
    by decide, by decide, by decide, by decide⟩ "Game"
    "def main():\n    util.replace_command('a=b', 'c')\n" (by decide) (by decide)
    (by decide +kernel)
  exact absurd hcompile (by decide +kernel)

end GameFixes.Installer
