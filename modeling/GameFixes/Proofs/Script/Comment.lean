import GameFixes.Proofs.Script.Brackets
import GameFixes.Proofs.Script.Meaning
import GameFixes.Proofs.Script.WrittenLiteral

/-!
# Comments after calls

A comment is written after a call whose parenthesis is closed on its line. The call ends before the
comment, but the quote characters of the comment are paired with those of the lines below it:

* `exists_read?_of_closesCall`: what follows a closed call does not change it;
* `CallLine.exists_operations`: a comment on such a line changes the operations of the script only
  through the quotation that it leaves open;
* `operations_withComment_iff`: the comments that change no script are those that leave no quotation
  open.
-/

namespace GameFixes.Script

/-! ### Closed calls -/

/-- A line starts with a call, and the parenthesis that closes it stands on the line. -/
def ClosesCall (l : List Char) : Prop :=
  ∃ name blanks arguments rest,
    l = callStart ++ (name ++ (blanks ++ '(' :: (arguments ++ ')' :: rest))) ∧
    isIdentifier name = true ∧ (∀ c ∈ blanks, Text.isBlank c = true) ∧
    upToClose 0 none (arguments ++ ')' :: rest) = arguments

/-- What follows a closed call does not change it. -/
theorem exists_read?_of_closesCall {l : List Char} (h : ClosesCall l) :
    ∃ c, ∀ s, Call.read? (l ++ s) = some c := by
  obtain ⟨name, blanks, arguments, rest, rfl, hname, hblanks, hclose⟩ := h
  refine ⟨⟨name, some (Text.trim arguments)⟩, fun s => ?_⟩
  have hl : callStart ++ (name ++ (blanks ++ '(' :: (arguments ++ ')' :: rest))) ++ s =
      callStart ++ (name ++ (blanks ++ '(' :: (arguments ++ ')' :: (rest ++ s)))) := by simp
  rw [hl, read?_parenthesis hname hblanks, upToClose_level_close (upToClose_append_eq_iff.1 hclose)]

/-! ### Marks around blanks -/

theorem Mark.isQuote_of_mem_text {m : Mark} {c : Char} (h : c ∈ m.text) : isQuote c = true := by
  cases m with
  | double => simp_all [Mark.text, isQuote]
  | single => simp_all [Mark.text, isQuote]

theorem Mark.blank_not_mem_text {c : Char} (h : Text.isBlank c = true) (m : Mark) : c ∉ m.text := by
  intro hm
  rw [isBlank_of_isQuote (Mark.isQuote_of_mem_text hm)] at h
  exact Bool.false_ne_true h

/-- Blanks in front of a text open and close nothing. -/
theorem openAfter_append_of_blank {p : List Char} (h : ∀ c ∈ p, Text.isBlank c = true)
    (m : Option Mark) (s : List Char) : openAfter m (p ++ s) = openAfter m s := by
  induction p with
  | nil => rfl
  | cons c p ih =>
    rw [List.forall_mem_cons] at h
    have hc := openAfter_append_cons (Mark.blank_not_mem_text h.1) m [] (p ++ s)
    rw [List.nil_append, openAfter_nil] at hc
    rw [List.cons_append, hc, ih h.2]

/-- Blanks after a text open and close nothing. -/
theorem openAfter_append_blanks {p : List Char} (h : ∀ c ∈ p, Text.isBlank c = true)
    (m : Option Mark) (s : List Char) : openAfter m (s ++ p) = openAfter m s := by
  cases p with
  | nil => rw [List.append_nil]
  | cons c p =>
    rw [List.forall_mem_cons] at h
    have hp := openAfter_append_of_blank h.2 (openAfter m s) []
    rw [List.append_nil, openAfter_nil] at hp
    rw [openAfter_append_cons (Mark.blank_not_mem_text h.1), hp]

/-- Trimming a line changes nothing about its marks. -/
theorem openAfter_trim (m : Option Mark) (l : List Char) :
    openAfter m (Text.trim l) = openAfter m l := by
  obtain ⟨p, q, hl, hp, hq⟩ := Text.exists_eq_append_trim l
  conv_rhs => rw [hl]
  rw [openAfter_append_blanks hq, openAfter_append_of_blank hp]

/-! ### Lines that call -/

/-- A line of a script's entry routine that is a closed call outside quotations and leaves none
open: the lines before it, the line, and the text from its end on. -/
structure CallLine where
  before : List (List Char)
  line : List Char
  after : List Char
  before_feed : ∀ l ∈ before, '\n' ∉ l
  line_feed : '\n' ∉ line
  /-- The line ends where it is said to end. -/
  after_start : after = [] ∨ ['\n'] <+: after ∨ ['\r', '\n'] <+: after
  /-- The head of the entry routine stands before the line. -/
  inRoutine : ∃ l ∈ before, entryMark <+: l
  /-- The lines of the entry routine before it leave no quotation open. -/
  outside : Begins (routine (Text.endLines before)) (routine (Text.endLines before)).length none
  closesCall : ClosesCall (Text.trim line)
  closesMarks : Leaves none line none

namespace CallLine

variable (c : CallLine)

/-- The script with the line. -/
def source : String := String.ofList (Text.endLines c.before ++ c.line ++ c.after)

/-- The script with a comment at the end of the line. -/
def withComment (comment : List Char) : String :=
  String.ofList (Text.endLines c.before ++ c.line ++ ' ' :: ' ' :: '#' :: comment ++ c.after)

theorem stateAfter_before : stateAfter none (routine (Text.endLines c.before)) = none := by
  have h := begins_none_iff.1 c.outside
  rwa [List.take_length] at h

/-- After the line come blanks up to its line feed, and then perhaps further lines. -/
theorem exists_after_eq : ∃ r rest, c.after = r ++ rest ∧ (∀ x ∈ r, Text.isBlank x = true) ∧
    '\n' ∉ r ∧ (rest = [] ∨ ∃ t, rest = '\n' :: t) := by
  rcases c.after_start with h | ⟨t, h⟩ | ⟨t, h⟩
  · exact ⟨[], [], h, by simp, by simp, Or.inl rfl⟩
  · exact ⟨[], '\n' :: t, h.symm, by simp, by simp, Or.inr ⟨t, rfl⟩⟩
  · exact ⟨['\r'], '\n' :: t, h.symm, List.forall_mem_singleton.2 rfl, by simp, Or.inr ⟨t, rfl⟩⟩

theorem trim_line_ne_nil : Text.trim c.line ≠ [] := by
  obtain ⟨name, blanks, arguments, rest, hl, -⟩ := c.closesCall
  intro h
  rw [h] at hl
  cases hl

/-- The line is the same call whatever follows on it. -/
theorem exists_read?_trim : ∃ call, ∀ s, Call.read? (Text.trim (c.line ++ s)) = some call := by
  obtain ⟨call, hcall⟩ := exists_read?_of_closesCall c.closesCall
  refine ⟨call, fun s => ?_⟩
  obtain ⟨u, hu⟩ := Text.exists_trim_append c.trim_line_ne_nil s
  rw [hu, hcall]

/-- What follows on the line begins outside quotations. -/
theorem openAfter_trim_append {x : Char} (hx : Text.isBlank x = true) (s : List Char) :
    openAfter none (Text.trim (c.line ++ x :: s)) = openAfter none s := by
  rw [openAfter_trim, openAfter_append_cons (Mark.blank_not_mem_text hx),
    leaves_iff.1 c.closesMarks]

end CallLine

/-! ### Scripts with a call -/

/-- The lines of an entry routine that begins in some lines before a text. -/
theorem body_endLines_append {before : List (List Char)} (hfeed : ∀ l ∈ before, '\n' ∉ l)
    (hentry : ∃ l ∈ before, entryMark <+: l) (s : List Char) :
    body (Text.endLines before ++ s) =
      routine (Text.endLines before) ++ ((Text.lines s).filter (!isEntry ·)).map Text.trim := by
  have hne : before.dropWhile (!isEntry ·) ≠ [] := by
    obtain ⟨l, hl, he⟩ := hentry
    intro h
    have hn := List.dropWhile_eq_nil_iff.1 h l hl
    rw [isEntry_eq, decide_eq_true he] at hn
    exact Bool.false_ne_true hn
  rw [← body_eq_routine, body, body, Text.lines_endLines_append hfeed, Text.lines_endLines hfeed,
    List.dropWhile_append, if_neg (by simpa using hne), List.filter_append, List.map_append]

theorem lines_append_of_feed {l rest : List Char} (hl : l ≠ []) (hfeed : '\n' ∉ l)
    (hrest : rest = [] ∨ ∃ t, rest = '\n' :: t) :
    Text.lines (l ++ rest) = l :: Text.lines rest.tail := by
  rcases hrest with rfl | ⟨t, rfl⟩
  · rw [List.append_nil, Text.lines_of_feed_not_mem hl hfeed]
    rfl
  · rw [Text.lines_append_feed hfeed, List.tail_cons]

/-- Whatever follows a call on its line, it is one operation between those of the lines above and
those of the lines below, which begin in the quotation that it leaves open. -/
theorem CallLine.operations_eq (c : CallLine) : ∃ o : Operation, ∀ s rest : List Char, '\n' ∉ s →
    (rest = [] ∨ ∃ t, rest = '\n' :: t) →
    operations (String.ofList (Text.endLines c.before ++ (c.line ++ s ++ rest))) =
      collect (readings none (routine (Text.endLines c.before)) ++ .operation o ::
        readings (openedBy false (Text.trim (c.line ++ s)))
          (((Text.lines rest.tail).filter (!isEntry ·)).map Text.trim)) := by
  obtain ⟨call, hcall⟩ := c.exists_read?_trim
  refine ⟨call.operation, fun s rest hs hrest => ?_⟩
  have hne : c.line ++ s ≠ [] := by
    intro h
    have := c.trim_line_ne_nil
    rw [(List.append_eq_nil_iff.1 h).1] at this
    exact this rfl
  have hfeed : '\n' ∉ c.line ++ s := by simp [c.line_feed, hs]
  have hentry : isEntry (c.line ++ s) = false :=
    isEntry_of_isCall_trim (isSome_read?_iff.1 (by rw [hcall]; rfl))
  rw [operations, String.toList_ofList, body_endLines_append c.before_feed c.inRoutine,
    lines_append_of_feed hne hfeed hrest, List.filter_cons_of_pos (by simp [hentry]),
    List.map_cons, readings_append, c.stateAfter_before, readings, readLine_of_read? (hcall s)]

/-- A comment changes the operations of a script only through the quotation that it leaves open. -/
theorem CallLine.exists_operations (c : CallLine) :
    ∃ (o : Operation) (above below : List (List Char)),
      operations c.source = collect (readings none above ++ .operation o :: readings none below) ∧
      ∀ comment : List Char, '\n' ∉ comment → operations (c.withComment comment) =
        collect (readings none above ++ .operation o ::
          readings ((openAfter none comment).map (⟨·, false⟩)) below) := by
  obtain ⟨r, rest, hafter, hr, hfeed, hrest⟩ := c.exists_after_eq
  obtain ⟨o, ho⟩ := c.operations_eq
  refine ⟨o, routine (Text.endLines c.before),
    ((Text.lines rest.tail).filter (!isEntry ·)).map Text.trim, ?_, fun comment hcomment => ?_⟩
  · have hopen : openedBy false (Text.trim (c.line ++ r)) = none := by
      rw [openedBy, openAfter_trim, openAfter_append_blanks hr, leaves_iff.1 c.closesMarks,
        Option.map_none]
    have hsource : c.source =
        String.ofList (Text.endLines c.before ++ (c.line ++ r ++ rest)) := by
      rw [source, hafter]
      simp only [List.append_assoc]
    rw [hsource, ho r rest hfeed hrest, hopen]
  · have hopen : openedBy false (Text.trim (c.line ++ (' ' :: ' ' :: '#' :: comment ++ r))) =
        (openAfter none comment).map (⟨·, false⟩) := by
      rw [openedBy, List.cons_append, c.openAfter_trim_append (by decide),
        openAfter_append_blanks hr, openAfter_cons_of_plain (by decide),
        openAfter_cons_of_plain (by decide)]
    have hsource : c.withComment comment = String.ofList (Text.endLines c.before ++
        (c.line ++ (' ' :: ' ' :: '#' :: comment ++ r) ++ rest)) := by
      rw [withComment, hafter]
      simp only [List.append_assoc]
    have hline : '\n' ∉ ' ' :: ' ' :: '#' :: comment ++ r := by simp [hcomment, hfeed]
    rw [hsource, ho _ rest hline hrest, hopen]

/-- A script with two calls, the first of which may get a comment. -/
def twoCalls : CallLine where
  before := ["def main():".toList]
  line := "    util.disable_esync()".toList
  after := "\n    util.disable_fsync()\n".toList
  before_feed := by decide
  line_feed := by decide
  after_start := Or.inr (Or.inl (by decide))
  inRoutine := ⟨_, List.mem_singleton_self _, by decide⟩
  outside := by decide
  closesCall := ⟨"disable_esync".toList, [], [], [], by decide, rfl, by simp, rfl⟩
  closesMarks := by decide

/-- A mark in the comment hides the second call. -/
theorem twoCalls_withComment_text_ne (m : Mark) :
    operations (twoCalls.withComment m.text) ≠ operations twoCalls.source := by
  rw [operations, operations, CallLine.withComment, CallLine.source, String.toList_ofList,
    String.toList_ofList]
  cases m with
  | double => decide +kernel
  | single => decide +kernel

/-- **A comment after a closed call changes no script if and only if it leaves no quotation
open.** -/
theorem operations_withComment_iff {comment : List Char} (hcomment : '\n' ∉ comment) :
    (∀ c : CallLine, operations (c.withComment comment) = operations c.source) ↔
      Leaves none comment none := by
  rw [leaves_iff]
  constructor
  · intro h
    by_contra hopen
    obtain ⟨m, hm⟩ := Option.ne_none_iff_exists'.1 hopen
    have hmark : openAfter none m.text = some m := by
      rw [← List.append_nil m.text, openAfter_mark, openAfter_nil]
    have hfeed : '\n' ∉ m.text := m.feed_not_mem_text
    -- the comment hides the same lines as the mark alone
    obtain ⟨o, above, below, -, hedit⟩ := twoCalls.exists_operations
    have hsame : operations (twoCalls.withComment comment) =
        operations (twoCalls.withComment m.text) := by
      rw [hedit comment hcomment, hedit m.text hfeed, hm, hmark]
    exact twoCalls_withComment_text_ne m (hsame.symm.trans (h twoCalls))
  · intro hopen c
    obtain ⟨o, above, below, hsource, hedit⟩ := c.exists_operations
    rw [hedit comment hcomment, hsource, hopen, Option.map_none]

theorem operations_withComment_note :
    '\n' ∉ " it's \"late\"".toList ∧
      operations (twoCalls.withComment " it's \"late\"".toList) = operations twoCalls.source := by
  have h : '\n' ∉ " it's \"late\"".toList := by decide
  exact ⟨h, (operations_withComment_iff h).2 (by decide) twoCalls⟩

/-- Some comments do change a script. -/
theorem not_forall_operations_withComment :
    ¬ ∀ (c : CallLine) (comment : List Char), '\n' ∉ comment →
      operations (c.withComment comment) = operations c.source := by
  intro h
  have hfeed : '\n' ∉ Mark.double.text := by decide
  exact twoCalls_withComment_text_ne .double (h twoCalls Mark.double.text hfeed)

end GameFixes.Script
