import GameFixes.Proofs.Script.Meaning
import Mathlib.Data.List.Forall2
import Mathlib.Logic.Relation

/-!
# The layout of a script

A script may be laid out anew without a change of what it means. Some lines are nothing wherever
they stand, and of the others it does not matter what blanks are around them.

* `Relayout`: one change of layout;
* `readLine_of_isQuiet`: a blank line, or a comment without a mark, is nothing and leaves open what
  was open before;
* `weighed`: the lines of a script that can matter, and `collect_weighed`: nothing else does;
* `weighed_lines_of_relayout`: a change of layout leaves these lines as they are;
* `operations_eq_of_relayout`: any number of such changes leaves the operations as they are.
-/

namespace GameFixes.Script

/-! ### Changes of layout -/

/-- Blanks that may stand on a line. -/
def IsPadding (p : List Char) : Prop := ∀ c ∈ p, Text.isBlank c = true ∧ c ≠ '\n'

/-- A line that is blank, or a comment without a mark. -/
def IsRemark (line : List Char) : Prop :=
  '\n' ∉ line ∧
    (Text.trim line = [] ∨ ['#'] <+: Text.trim line ∧ ∀ m : Mark, ¬ m.text <:+: Text.trim line)

/-- What stands before a line. -/
def IsAbove (above : List Char) : Prop := above = [] ∨ ['\n'] <:+ above

/-- What stands after a line. -/
def IsBelow (below : List Char) : Prop := below = [] ∨ ['\n'] <+: below

/-- A text in which a carriage return stands before every line feed. -/
def withReturns : List Char → List Char
  | [] => []
  | '\r' :: '\n' :: s => '\r' :: '\n' :: withReturns s
  | c :: s => if c = '\n' then '\r' :: '\n' :: withReturns s else c :: withReturns s

/-- A change of layout. -/
inductive Relayout : List Char → List Char → Prop
  /-- A blank line, or a comment without a mark, is put in front of another line or at the end. -/
  | remark {above line below : List Char} (habove : IsAbove above) (hline : IsRemark line) :
      Relayout (above ++ below) (above ++ line ++ '\n' :: below)
  /-- The last line is ended, or a line without anything is put behind it. -/
  | feed (text : List Char) : Relayout text (text ++ ['\n'])
  /-- A line gets other blanks at its ends; it is a head of the entry routine afterwards if it was
  one before. -/
  | padding {above p line q p' q' below : List Char} (habove : IsAbove above) (hline : '\n' ∉ line)
      (hbelow : IsBelow below) (hp : IsPadding p) (hq : IsPadding q) (hp' : IsPadding p')
      (hq' : IsPadding q')
      (hhead : entryMark <+: p ++ line ++ q ↔ entryMark <+: p' ++ line ++ q') :
      Relayout (above ++ (p ++ line ++ q) ++ below) (above ++ (p' ++ line ++ q') ++ below)
  /-- Every line feed without a carriage return gets one. -/
  | returns (text : List Char) : Relayout text (withReturns text)
  /-- The lines in front of the entry routine, or some of the first of them, are exchanged for
  others. -/
  | prologue {above above' below : List Char} (habove : IsAbove above) (habove' : IsAbove above')
      (h : ∀ l ∈ Text.lines above, ¬ entryMark <+: l)
      (h' : ∀ l ∈ Text.lines above', ¬ entryMark <+: l) :
      Relayout (above ++ below) (above' ++ below)

/-! ### Lines without any weight -/

/-- Whether a trimmed line is blank, or a comment without a mark. -/
def isQuiet (line : List Char) : Bool :=
  isIdle line && decide (∀ m : Mark, Text.occurs m.text line = false)

theorem isQuiet_iff {l : List Char} :
    isQuiet l = true ↔ isIdle l = true ∧ ∀ m : Mark, ¬ m.text <:+: l := by
  simp only [isQuiet, Bool.and_eq_true, decide_eq_true_iff, ← Bool.not_eq_true, Text.occurs_iff]

/-- Such a line is nothing, inside a quotation and outside, and closes and opens none. -/
theorem readLine_of_isQuiet {l : List Char} (h : isQuiet l = true) (q : Option Quotation) :
    readLine q l = (.nothing, q) := by
  obtain ⟨hidle, hmark⟩ := isQuiet_iff.1 h
  cases q with
  | none => rw [readLine, readPlain, if_pos hidle]
  | some q =>
    have hoccurs : ¬ Text.occurs q.mark.text l = true := fun ho => hmark _ (Text.occurs_iff.1 ho)
    rw [readLine, readQuoted, if_neg hoccurs, if_pos (by rw [hidle, Bool.or_true])]

theorem filter_readings (q : Option Quotation) (ls : List (List Char)) :
    (readings q (ls.filter (!isQuiet ·))).filter (· ≠ .nothing) =
      (readings q ls).filter (· ≠ .nothing) := by
  induction ls generalizing q with
  | nil => rfl
  | cons l ls ih =>
    rw [readings]
    cases h : isQuiet l with
    | true =>
      rw [List.filter_cons_of_neg (by simp [h]), readLine_of_isQuiet h,
        List.filter_cons_of_neg (by simp), ih]
    | false => rw [List.filter_cons_of_pos (by simp [h]), readings, List.filter_cons,
        List.filter_cons, ih]

theorem collect_filter (rs : List Reading) : collect (rs.filter (· ≠ .nothing)) = collect rs := by
  have hlogic : Reading.logic ∈ rs.filter (· ≠ .nothing) ↔ Reading.logic ∈ rs := by simp
  unfold collect
  rw [List.filterMap_filter]
  simp only [hlogic]
  congr 2
  funext r
  cases r <;> rfl

/-! ### The lines that can matter -/

/-- The trimmed lines that can matter: those of the entry routine that are not quiet. The lines
begin inside the routine or in front of it. -/
def weighed (inside : Bool) : List (List Char) → List (List Char)
  | [] => []
  | l :: ls =>
    if isEntry l then weighed true ls
    else if inside && !isQuiet (Text.trim l) then Text.trim l :: weighed inside ls
    else weighed inside ls

theorem weighed_true (ls : List (List Char)) :
    weighed true ls = ((ls.filter (!isEntry ·)).map Text.trim).filter (!isQuiet ·) := by
  induction ls with
  | nil => rfl
  | cons l ls ih => cases he : isEntry l <;> cases hq : isQuiet (Text.trim l) <;> simp [weighed, *]

theorem weighed_false (ls : List (List Char)) : weighed false ls =
    (((ls.dropWhile (!isEntry ·)).filter (!isEntry ·)).map Text.trim).filter (!isQuiet ·) := by
  induction ls with
  | nil => rfl
  | cons l ls ih => cases he : isEntry l <;> simp [weighed, weighed_true, *]

/-- The operations of a script are those of the lines that can matter. -/
theorem collect_weighed (source : String) :
    operations source = collect (readings none (weighed false (Text.lines source.toList))) := by
  rw [operations, ← collect_filter, ← filter_readings, collect_filter, weighed_false]
  rfl

theorem weighed_append (b : Bool) (ls ls' : List (List Char)) :
    weighed b (ls ++ ls') = weighed b ls ++ weighed (b || ls.any isEntry) ls' := by
  induction ls generalizing b with
  | nil => simp [weighed]
  | cons l ls ih =>
    cases he : isEntry l with
    | true => simp [weighed, he, ih]
    | false =>
      cases hq : b && !isQuiet (Text.trim l) <;> simp [weighed, he, hq, ih]

/-- Quiet lines that are no heads do not matter. -/
theorem weighed_cons_of_isQuiet {b : Bool} {l : List Char} {ls : List (List Char)}
    (he : isEntry l = false) (hq : isQuiet (Text.trim l) = true) :
    weighed b (l :: ls) = weighed b ls := by
  simp [weighed, he, hq]

/-- Lines that differ in the blanks around them matter alike. -/
theorem weighed_eq_of_forall₂ {ls ls' : List (List Char)} (b : Bool)
    (h : List.Forall₂ (fun l l' => isEntry l = isEntry l' ∧ Text.trim l = Text.trim l') ls ls') :
    weighed b ls = weighed b ls' := by
  induction h generalizing b with
  | nil => rfl
  | cons hl _ ih => rw [weighed, weighed, hl.1, hl.2, ih, ih]

/-- Without a head there is no entry routine. -/
theorem weighed_false_of_forall {ls : List (List Char)} (h : ∀ l ∈ ls, ¬ entryMark <+: l) :
    weighed false ls = [] ∧ ls.any isEntry = false := by
  have hentry : ∀ l ∈ ls, isEntry l = false := fun l hl => by
    rw [← Bool.not_eq_true, isEntry, Text.isSome_after?_iff]
    exact h l hl
  refine ⟨?_, List.any_eq_false.2 fun l hl => by simp [hentry l hl]⟩
  rw [weighed_false, List.dropWhile_eq_nil_iff.2 fun l hl => by simp [hentry l hl]]
  rfl

/-! ### The lines of an edited text -/

theorem lines_eq_nil_iff {s : List Char} : Text.lines s = [] ↔ s = [] := by
  refine ⟨fun h => ?_, fun h => h ▸ rfl⟩
  cases s with
  | nil => rfl
  | cons c s =>
    rw [Text.lines] at h
    split_ifs at h
    cases hs : Text.lines s <;> rw [hs] at h <;> cases h

/-- Lines are read on after a line feed. -/
theorem lines_append_of_isAbove {above : List Char} (h : IsAbove above) (s : List Char) :
    Text.lines (above ++ s) = Text.lines above ++ Text.lines s := by
  obtain rfl | ⟨above, rfl⟩ := h
  · rfl
  · rw [List.append_assoc, List.singleton_append]
    induction above with
    | nil => simp
    | cons c above ih =>
      rw [List.cons_append, List.cons_append, Text.lines, Text.lines, ih]
      split_ifs with hc
      · rfl
      · cases hlines : Text.lines (above ++ ['\n']) with
        | nil => simp [lines_eq_nil_iff] at hlines
        | cons l ls => rfl

/-- A line feed at the end of a text ends its last line, or is a line of its own. -/
theorem lines_concat_feed (s : List Char) :
    Text.lines (s ++ ['\n']) = Text.lines s ∨ Text.lines (s ++ ['\n']) = Text.lines s ++ [[]] := by
  induction s with
  | nil => exact .inr rfl
  | cons c s ih =>
    rw [List.cons_append, Text.lines, Text.lines]
    split_ifs with hc
    · exact ih.imp (congrArg _) (congrArg _)
    · obtain ih | ih := ih
      · rw [ih]
        exact .inl rfl
      · rw [ih]
        cases Text.lines s with
        | nil => exact .inl rfl
        | cons l ls => exact .inr rfl

theorem weighed_lines_concat_feed (s : List Char) :
    weighed false (Text.lines (s ++ ['\n'])) = weighed false (Text.lines s) := by
  obtain h | h := lines_concat_feed s
  · rw [h]
  · rw [h, weighed_append, weighed_cons_of_isQuiet rfl (by decide), weighed, List.append_nil]

/-- A line between others is read as such, unless it is empty and the last one. -/
theorem weighed_lines_line {above line below : List Char} (habove : IsAbove above)
    (hline : '\n' ∉ line) (hbelow : IsBelow below) :
    weighed false (Text.lines (above ++ line ++ below)) =
      weighed false (Text.lines above ++ line :: Text.lines below.tail) := by
  obtain rfl | ⟨below, rfl⟩ := hbelow
  · have hlast := weighed_lines_concat_feed (above ++ line)
    rw [List.append_assoc, lines_append_of_isAbove habove, Text.lines_append_feed hline] at hlast
    rw [List.append_nil, ← hlast]
    rfl
  · rw [List.append_assoc, List.singleton_append, lines_append_of_isAbove habove,
      Text.lines_append_feed hline]
    rfl

/-- Carriage returns in front of line feeds stand at the ends of lines. -/
theorem forall₂_lines_withReturns (s : List Char) :
    List.Forall₂ (fun l l' => l' = l ∨ l' = l ++ ['\r']) (Text.lines s)
      (Text.lines (withReturns s)) := by
  fun_induction withReturns s with
  | case1 => exact .nil
  | case2 s ih => simpa [Text.lines] using ih
  | case3 s h ih => simpa [Text.lines] using ih
  | case4 c s h hc ih =>
    rw [Text.lines, Text.lines, if_neg hc, if_neg hc]
    generalize Text.lines s = ls, Text.lines (withReturns s) = ls' at ih
    cases ih with
    | nil => exact .cons (.inl rfl) .nil
    | cons hl ih => exact .cons (hl.imp (congrArg _) (congrArg _)) ih

/-! ### Padding -/

theorem isPadding_nil : IsPadding [] := List.forall_mem_nil _

theorem isPadding_singleton {c : Char} (h : Text.isBlank c = true ∧ c ≠ '\n') : IsPadding [c] :=
  List.forall_mem_singleton.2 h

theorem trim_padding {p q : List Char} (hp : IsPadding p) (hq : IsPadding q) (line : List Char) :
    Text.trim (p ++ line ++ q) = Text.trim line := by
  rw [Text.trim_append_blanks fun c hc => (hq c hc).1,
    Text.trim_append_of_blank fun c hc => (hp c hc).1]

theorem feed_not_mem_padding {p line q : List Char} (hp : IsPadding p) (hline : '\n' ∉ line)
    (hq : IsPadding q) : '\n' ∉ p ++ line ++ q := by
  simp only [List.mem_append, not_or]
  exact ⟨⟨fun h => (hp _ h).2 rfl, hline⟩, fun h => (hq _ h).2 rfl⟩

/-- A carriage return at the end of a line is none of the head of the entry routine. -/
theorem isEntry_concat_return (l : List Char) : isEntry (l ++ ['\r']) = isEntry l := by
  have hreturn : '\r' ∉ entryMark := by decide
  rw [isEntry_eq, isEntry_eq]
  refine decide_eq_decide.2 ⟨Text.isPrefix_of_isPrefix_append_cons hreturn, fun h => ?_⟩
  exact h.trans (List.prefix_append _ _)

/-- A remark is no head of the entry routine, and quiet. -/
theorem IsRemark.isQuiet {line : List Char} (h : IsRemark line) :
    isEntry line = false ∧ isQuiet (Text.trim line) = true := by
  obtain ⟨-, hblank | ⟨⟨s, hs⟩, hmark⟩⟩ := h
  · rw [hblank]
    exact ⟨isEntry_of_trim fun s hs => (by simp [hblank] at hs), by decide⟩
  · refine ⟨isEntry_of_trim fun t ht => ?_, isQuiet_iff.2 ⟨?_, hmark⟩⟩
    · rw [← hs] at ht
      exact absurd (List.cons.inj ht).1 (by decide)
    · rw [← hs]
      rfl

/-! ### Changes of layout -/

/-- A change of layout leaves the lines that can matter as they are. -/
theorem weighed_lines_of_relayout {s t : List Char} (h : Relayout s t) :
    weighed false (Text.lines s) = weighed false (Text.lines t) := by
  cases h with
  | remark habove hline =>
    obtain ⟨he, hq⟩ := hline.isQuiet
    rw [List.append_assoc, lines_append_of_isAbove habove, lines_append_of_isAbove habove,
      Text.lines_append_feed hline.1, weighed_append, weighed_append, weighed_cons_of_isQuiet he hq]
  | feed => exact (weighed_lines_concat_feed s).symm
  | @padding above p line q p' q' below habove hline hbelow hp hq hp' hq' hhead =>
    have hentry : isEntry (p ++ line ++ q) = isEntry (p' ++ line ++ q') := by
      rw [isEntry_eq, isEntry_eq]
      exact decide_eq_decide.2 hhead
    have htrim : Text.trim (p ++ line ++ q) = Text.trim (p' ++ line ++ q') := by
      rw [trim_padding hp hq, trim_padding hp' hq']
    rw [weighed_lines_line habove (feed_not_mem_padding hp hline hq) hbelow,
      weighed_lines_line habove (feed_not_mem_padding hp' hline hq') hbelow, weighed_append,
      weighed_append, weighed, weighed, hentry, htrim]
  | returns =>
    refine weighed_eq_of_forall₂ false ((forall₂_lines_withReturns s).imp ?_)
    rintro l l' (rfl | rfl)
    · exact ⟨rfl, rfl⟩
    · exact ⟨(isEntry_concat_return l).symm,
        (trim_padding isPadding_nil (isPadding_singleton (by decide)) l).symm⟩
  | prologue habove habove' h h' =>
    obtain ⟨hnone, hany⟩ := weighed_false_of_forall h
    obtain ⟨hnone', hany'⟩ := weighed_false_of_forall h'
    rw [lines_append_of_isAbove habove, lines_append_of_isAbove habove', weighed_append,
      weighed_append, hnone, hnone', hany, hany']

/-- So does any number of them, one after another and in either direction. -/
theorem weighed_lines_of_eqvGen {s t : List Char} (h : Relation.EqvGen Relayout s t) :
    weighed false (Text.lines s) = weighed false (Text.lines t) := by
  induction h with
  | rel s t h => exact weighed_lines_of_relayout h
  | refl s => rfl
  | symm s t _ ih => exact ih.symm
  | trans s t u _ _ hst htu => exact hst.trans htu

/-- **The layout of a script does not matter.** Scripts that come from each other by changes of
layout, any number of them and each made or undone, have the same operations. -/
theorem operations_eq_of_relayout {source edited : String}
    (h : Relation.EqvGen Relayout source.toList edited.toList) :
    operations source = operations edited := by
  rw [collect_weighed, collect_weighed, weighed_lines_of_eqvGen h]

/-- A script, and what an editor on another system makes of it: a line in front of the routine, a
line inside a text that spans lines, the end of the last line, the blanks in front of it and the
line ends are other ones. -/
theorem operations_eq_of_relayout_editor :
    Relation.EqvGen Relayout "#\ndef main():\n'''\n\n'''\n util.disable_esync()".toList
        "\r\ndef main():\r\n'''\r\n#a\r\n'''\r\n\tutil.disable_esync()\r\n".toList ∧
      operations "#\ndef main():\n'''\n\n'''\n util.disable_esync()" =
        operations "\r\ndef main():\r\n'''\r\n#a\r\n'''\r\n\tutil.disable_esync()\r\n" := by
  have hprologue : Relayout
      ("#\n".toList ++ "def main():\n'''\n\n'''\n util.disable_esync()".toList)
      ("\n".toList ++ "def main():\n'''\n\n'''\n util.disable_esync()".toList) :=
    .prologue (.inr (by decide)) (.inr (by decide)) (by decide) (by decide)
  have hblank : Relayout ("\ndef main():\n'''\n".toList ++ "'''\n util.disable_esync()".toList)
      ("\ndef main():\n'''\n".toList ++ [] ++ '\n' :: "'''\n util.disable_esync()".toList) :=
    .remark (.inr (by decide)) ⟨by decide, .inl rfl⟩
  have hcomment : Relayout ("\ndef main():\n'''\n".toList ++ "'''\n util.disable_esync()".toList)
      ("\ndef main():\n'''\n".toList ++ "#a".toList ++
        '\n' :: "'''\n util.disable_esync()".toList) :=
    .remark (.inr (by decide)) ⟨by decide, .inr ⟨by decide, by decide⟩⟩
  have hfeed := Relayout.feed "\ndef main():\n'''\n#a\n'''\n util.disable_esync()".toList
  have hpadding : Relayout
      ("\ndef main():\n'''\n#a\n'''\n".toList ++ ([' '] ++ "util.disable_esync()".toList ++ []) ++
        ['\n'])
      ("\ndef main():\n'''\n#a\n'''\n".toList ++ (['\t'] ++ "util.disable_esync()".toList ++ []) ++
        ['\n']) :=
    .padding (.inr (by decide)) (by decide) (.inr (by decide)) (isPadding_singleton (by decide))
      isPadding_nil (isPadding_singleton (by decide)) isPadding_nil (by decide)
  have hreturns := Relayout.returns "\ndef main():\n'''\n#a\n'''\n\tutil.disable_esync()\n".toList
  have h := (((((Relation.EqvGen.rel _ _ hprologue).trans _ _ _
    (.symm _ _ (.rel _ _ hblank))).trans _ _ _ (.rel _ _ hcomment)).trans _ _ _
    (.rel _ _ hfeed)).trans _ _ _ (.rel _ _ hpadding)).trans _ _ _ (.rel _ _ hreturns)
  exact ⟨h, operations_eq_of_relayout h⟩

end GameFixes.Script
