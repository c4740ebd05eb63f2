import GameFixes.Proofs.Script.Reading
import GameFixes.Proofs.Script.WrittenLiteral

/-!
# Written calls

A script that consists of calls, one to a line, whose arguments are literals. Reading it gives the
operations that were written:

* `read?_text`: the call of a line is its name and the text of its literals;
* `readLine_text`: the line is that operation, and leaves no quotation open;
* `operations_writtenScript`: the script has one operation for each call, in their order, and no
  marker.
-/

namespace GameFixes.Script

/-- The operation that a call of `name` with literals stands for, by its name and the values. -/
def writtenOperation (name : String) (ls : List WrittenLiteral) : Operation :=
  if ls = [] then .bare name
  else if name ∈ ["regedit_add", "append_arguments", "set_ini_options"] then
    .call name (String.ofList (literalList ls))
  else
    match ls.map WrittenLiteral.value with
    | [v] => .labelled name (String.ofList v)
    | [k, v] =>
      if name ∈ ["winedll_override", "set_environment", "replace_command"] then
        .labelled name (String.ofList k ++ "=" ++ String.ofList v)
      else .call name (String.ofList (literalList ls))
    | _ => .call name (String.ofList (literalList ls))

/-- A call on a line of its own, with literals as arguments. -/
structure WrittenCall where
  indent : List Char
  name : List Char
  arguments : List WrittenLiteral
  indent_blank : ∀ c ∈ indent, Text.isBlank c = true
  indent_feed : '\n' ∉ indent
  isIdentifier_name : isIdentifier name = true
  value_feed : ∀ l ∈ arguments, '\n' ∉ l.value

namespace WrittenCall

/-- The text of a call. -/
def text (c : WrittenCall) : List Char :=
  callStart ++ c.name ++ '(' :: literalList c.arguments ++ [')']

/-- The line of a call. -/
def line (c : WrittenCall) : List Char := c.indent ++ c.text

/-- The operation that a call stands for. -/
def operation (c : WrittenCall) : Operation := writtenOperation (String.ofList c.name) c.arguments

theorem name_identifier (c : WrittenCall) : ∀ x ∈ c.name, isIdentifierChar x = true :=
  (isIdentifier_iff.1 c.isIdentifier_name).2

end WrittenCall

/-- The lines of a script that consists of calls. -/
def writtenScript (cs : List WrittenCall) : List (List Char) :=
  "def main():".toList :: cs.map WrittenCall.line

/-! ### Reading one call -/

/-- A list of literals ends with a quote character. -/
theorem exists_literalList_eq_concat (l : WrittenLiteral) (ls : List WrittenLiteral) :
    ∃ u q, isQuote q = true ∧ literalList (l :: ls) = u ++ [q] := by
  induction ls generalizing l with
  | nil => exact ⟨l.quote :: escape l.value, l.quote, l.isQuote_quote, List.append_nil _⟩
  | cons l' ls ih =>
    obtain ⟨u, q, hq, h⟩ := ih l'
    refine ⟨l.text ++ ',' :: ' ' :: u, q, hq, ?_⟩
    rw [literalList_cons, laterLiterals_cons, List.cons_append, List.cons_append,
      ← literalList_cons, h, List.append_assoc]
    rfl

theorem trim_literalList (ls : List WrittenLiteral) :
    Text.trim (literalList ls) = literalList ls := by
  cases ls with
  | nil => rfl
  | cons l ls =>
    obtain ⟨u, q, hq, h⟩ := exists_literalList_eq_concat l ls
    exact Text.trim_of_edges rfl h (isBlank_of_isQuote l.isQuote_quote) (isBlank_of_isQuote hq)

namespace WrittenCall

variable (c : WrittenCall)

theorem text_eq : c.text = callStart ++ (c.name ++ '(' :: (literalList c.arguments ++ [')'])) := by
  simp [text]

/-- The call that a line starts with is the one that was written. -/
theorem read?_text : Call.read? c.text = some ⟨c.name, some (literalList c.arguments)⟩ := by
  have hread := read?_parenthesis c.isIdentifier_name (List.forall_mem_nil _)
    (literalList c.arguments ++ [')'])
  rw [upToClose_level_close (.balanced (balanced_literalList c.arguments)),
    trim_literalList] at hread
  rw [text_eq]
  exact hread

theorem isCall_text : IsCall c.text := isSome_read?_iff.1 (by rw [c.read?_text]; rfl)

end WrittenCall

theorem ofList_pair (k v : List Char) :
    String.ofList (k ++ '=' :: v) = String.ofList k ++ "=" ++ String.ofList v := by
  rw [← String.toList_inj]
  simp

/-- A call with a list of literals stands for the operation that was written. -/
theorem operation_literalList (name : List Char) (ls : List WrittenLiteral) :
    (⟨name, some (literalList ls)⟩ : Call).operation =
      writtenOperation (String.ofList name) ls := by
  unfold Call.operation writtenOperation
  dsimp only
  generalize String.ofList name = n
  cases ls with
  | nil => rfl
  | cons l ls =>
    have hraw : (!(literalList (l :: ls)).isEmpty) = true := rfl
    have hlit := literals?_literalList l ls
    rw [Option.filter_some, if_pos hraw, Option.map_some, if_neg (List.cons_ne_nil l ls)]
    unfold ArgumentStyle.ofName ArgumentStyle.argument
    rw [hlit]
    by_cases hk : n ∈ ["winedll_override", "set_environment", "replace_command"]
    · have hv : n ∉ ["regedit_add", "append_arguments", "set_ini_options"] := by
        simp only [List.mem_cons, List.not_mem_nil, or_false] at hk
        rcases hk with rfl | rfl | rfl <;> decide
      rw [if_pos hk, if_neg hv]
      rcases ls with _ | ⟨l', _ | ⟨l'', ls⟩⟩
      · rfl
      · simp only [List.map_cons, List.map_nil, if_pos hk, ofList_pair]
        rfl
      · rfl
    · rw [if_neg hk]
      by_cases hv : n ∈ ["regedit_add", "append_arguments", "set_ini_options"]
      · rw [if_pos hv, if_pos hv]
        rfl
      · rw [if_neg hv, if_neg hv]
        rcases ls with _ | ⟨l', _ | ⟨l'', ls⟩⟩
        · rfl
        · simp only [List.map_cons, List.map_nil, if_neg hk]
          rfl
        · rfl

/-! ### Reading a line -/

theorem callStart_eq : callStart = ['u', 't', 'i', 'l', '.'] := rfl

theorem isQuote_of_isIdentifierChar {x : Char} (h : isIdentifierChar x = true) :
    isQuote x = false := by
  by_contra hq
  rw [Bool.not_eq_false] at hq
  simp only [isQuote, Bool.or_eq_true, beq_iff_eq] at hq
  rcases hq with rfl | rfl <;> exact absurd h (by decide)

theorem isQuote_of_mem_callStart {x : Char} (h : x ∈ callStart) : isQuote x = false := by
  simp only [callStart_eq, List.mem_cons, List.not_mem_nil, or_false] at h
  rcases h with rfl | rfl | rfl | rfl | rfl <;> rfl

namespace WrittenCall

variable (c : WrittenCall)

theorem openAfter_text : openAfter none c.text = none := by
  have hclose : StartsUnquoted [')'] := startsUnquoted_cons (by decide) []
  rw [text_eq, openAfter_append_of_plain fun x hx => isQuote_of_mem_callStart hx,
    openAfter_append_of_plain fun x hx => isQuote_of_isIdentifierChar (c.name_identifier x hx),
    openAfter_cons_of_plain (by decide), openAfter_literalList _ hclose,
    openAfter_cons_of_plain (by decide), openAfter_nil]

/-- The line of a call is its operation, and leaves no quotation open. -/
theorem readLine_text : readLine none c.text = (.operation c.operation, none) := by
  have hopen : openedBy false c.text = none := by rw [openedBy, c.openAfter_text, Option.map_none]
  rw [readLine_of_read? c.read?_text, hopen, operation_literalList]
  rfl

theorem trim_line : Text.trim c.line = c.text := by
  rw [line, Text.trim_append_of_blank c.indent_blank]
  have hstart : c.text = 'u' :: (['t', 'i', 'l', '.'] ++ (c.name ++ '(' ::
      (literalList c.arguments ++ [')']))) := by
    rw [text_eq, callStart_eq]
    rfl
  have hend : c.text = callStart ++ c.name ++ '(' :: literalList c.arguments ++ [')'] := rfl
  exact Text.trim_of_edges hstart hend (by decide) (by decide)

theorem isEntry_line : isEntry c.line = false :=
  isEntry_of_isCall_trim (by rw [c.trim_line]; exact c.isCall_text)

end WrittenCall

theorem feed_not_mem_escape {v : List Char} (h : '\n' ∉ v) : '\n' ∉ escape v := by
  intro hm
  obtain ⟨x, hx, hm⟩ := List.mem_flatMap.1 hm
  unfold escapeChar at hm
  split_ifs at hm
  · simp only [List.mem_cons, List.not_mem_nil, or_false] at hm
    rcases hm with hm | rfl
    · exact absurd hm (by decide)
    · exact h hx
  · obtain rfl := List.mem_singleton.1 hm
    exact h hx

theorem feed_not_mem_literal {l : WrittenLiteral} (h : '\n' ∉ l.value) : '\n' ∉ l.text := by
  have hq : '\n' ≠ l.quote := by
    rintro e
    exact absurd (e ▸ l.isQuote_quote) (by decide)
  simp [WrittenLiteral.text, hq, feed_not_mem_escape h]

theorem feed_not_mem_literalList {ls : List WrittenLiteral} (h : ∀ l ∈ ls, '\n' ∉ l.value) :
    '\n' ∉ literalList ls := by
  cases ls with
  | nil => exact List.not_mem_nil
  | cons l ls =>
    rw [List.forall_mem_cons] at h
    rw [literalList_cons, List.mem_append, not_or]
    refine ⟨feed_not_mem_literal h.1, fun hm => ?_⟩
    obtain ⟨l', hl', hm⟩ := List.mem_flatMap.1 hm
    simp only [List.mem_cons] at hm
    rcases hm with hm | hm | hm
    · exact absurd hm (by decide)
    · exact absurd hm (by decide)
    · exact feed_not_mem_literal (h.2 l' hl') hm

theorem feed_not_mem_line (c : WrittenCall) : '\n' ∉ c.line := by
  have hname : '\n' ∉ c.name := fun hm => absurd (c.name_identifier _ hm) (by decide)
  have hcall : '\n' ∉ callStart := by decide
  simp [WrittenCall.line, WrittenCall.text, c.indent_feed, hname, hcall,
    feed_not_mem_literalList c.value_feed]

/-! ### Reading a script -/

/-- The lines of the entry routine of a written script are its calls. -/
theorem body_of_lines {s : List Char} {cs : List WrittenCall}
    (h : Text.lines s = writtenScript cs) : body s = cs.map WrittenCall.text := by
  have hentry : isEntry "def main():".toList = true := rfl
  have hlines : (cs.map WrittenCall.line).filter (!isEntry ·) = cs.map WrittenCall.line := by
    rw [List.filter_eq_self]
    intro l hl
    obtain ⟨c, -, rfl⟩ := List.mem_map.1 hl
    rw [c.isEntry_line]
    rfl
  rw [body, h, writtenScript, List.dropWhile_cons_of_neg (by rw [hentry]; decide),
    List.filter_cons_of_neg (by rw [hentry]; decide), hlines, List.map_map]
  exact List.map_congr_left fun c _ => c.trim_line

theorem readings_map_text (cs : List WrittenCall) :
    readings none (cs.map WrittenCall.text) = cs.map fun c => .operation c.operation := by
  induction cs with
  | nil => rfl
  | cons c cs ih => rw [List.map_cons, readings, c.readLine_text, ih, List.map_cons]

/-- Readings that are operations amount to these operations. -/
theorem collect_map_operation (os : List Operation) : collect (os.map .operation) = os := by
  have hlogic : Reading.logic ∉ os.map Reading.operation := by simp
  rw [collect, if_neg hlogic, List.append_nil, List.filterMap_map]
  exact List.filterMap_some

/-- A routine of calls has one operation for each, and nothing else. -/
theorem operations_of_body {source : String} {cs : List WrittenCall}
    (h : body source.toList = cs.map WrittenCall.text) :
    operations source = cs.map WrittenCall.operation := by
  rw [operations, h, readings_map_text, ← collect_map_operation (cs.map _), List.map_map]
  rfl

theorem operations_of_lines {source : String} {cs : List WrittenCall}
    (h : Text.lines source.toList = writtenScript cs) :
    operations source = cs.map WrittenCall.operation :=
  operations_of_body (body_of_lines h)

theorem feed_not_mem_writtenScript (cs : List WrittenCall) : ∀ l ∈ writtenScript cs, '\n' ∉ l := by
  rw [writtenScript, List.forall_mem_cons]
  refine ⟨by decide, fun l hl => ?_⟩
  obtain ⟨c, -, rfl⟩ := List.mem_map.1 hl
  exact feed_not_mem_line c

theorem nil_not_mem_writtenScript (cs : List WrittenCall) : [] ∉ writtenScript cs := by
  rw [writtenScript, List.mem_cons, not_or]
  refine ⟨by decide, fun hm => ?_⟩
  obtain ⟨c, -, hc⟩ := List.mem_map.1 hm
  rw [WrittenCall.line, List.append_eq_nil_iff, c.text_eq, callStart_eq] at hc
  cases hc.2

/-- **A script of calls with literals has one operation for each call, in their order, and no
marker**, whether its last line is ended or not. -/
theorem operations_writtenScript (cs : List WrittenCall) :
    operations (String.ofList (Text.endLines (writtenScript cs))) =
        cs.map WrittenCall.operation ∧
      operations (String.ofList (Text.joinLines (writtenScript cs))) =
        cs.map WrittenCall.operation := by
  refine ⟨operations_of_lines ?_, operations_of_lines ?_⟩
  · rw [String.toList_ofList, Text.lines_endLines (feed_not_mem_writtenScript cs)]
  · have hlast : (writtenScript cs).getLast? ≠ some [] := fun h =>
      nil_not_mem_writtenScript cs (List.mem_of_getLast? h)
    rw [String.toList_ofList, Text.lines_joinLines (feed_not_mem_writtenScript cs) hlast]

end GameFixes.Script
