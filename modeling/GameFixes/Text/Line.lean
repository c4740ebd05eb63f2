/-!
# Lines

A text is a list of lines, each ended by a line feed; the last one may lack it. A carriage return
before the line feed stays at the end of its line, where every reader of lines trims it away.
-/

namespace GameFixes.Text

/-- The lines of a text, without their line feeds. -/
def lines : List Char → List (List Char)
  | [] => []
  | c :: s =>
    if c = '\n' then [] :: lines s
    else
      match lines s with
      | [] => [[c]]
      | l :: ls => (c :: l) :: ls

@[simp] theorem lines_nil : lines [] = [] := rfl

@[simp] theorem lines_feed (s : List Char) : lines ('\n' :: s) = [] :: lines s := by
  simp [lines]

/-- A full line in front of a text is its first line. -/
theorem lines_append_feed {l : List Char} (h : '\n' ∉ l) (s : List Char) :
    lines (l ++ '\n' :: s) = l :: lines s := by
  induction l with
  | nil => simp
  | cons c l ih =>
    have hc : c ≠ '\n' := fun e => h (by simp [e])
    simp [lines, hc, ih fun m => h (List.mem_cons_of_mem c m)]

end GameFixes.Text
