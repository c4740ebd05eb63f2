/-!
# Blank characters

The characters with the Unicode property `White_Space`, and the removal of such characters from
the ends of a text. Scanners work on `List Char`; the functions on `String` are what the rest of
the library calls.
-/

namespace GameFixes.Text

/-- The 25 characters with the Unicode property `White_Space`. -/
def isBlank (c : Char) : Bool :=
  let n := c.toNat
  (0x09 ≤ n && n ≤ 0x0D) || n == 0x20 || n == 0x85 || n == 0xA0 || n == 0x1680 ||
    (0x2000 ≤ n && n ≤ 0x200A) || n == 0x2028 || n == 0x2029 || n == 0x202F || n == 0x205F ||
    n == 0x3000

/-- A text without the blanks it starts with. -/
def trimStart (s : List Char) : List Char := s.dropWhile isBlank

/-- A text without the blanks it ends with. -/
def trimEnd (s : List Char) : List Char := (s.reverse.dropWhile isBlank).reverse

/-- A text without the blanks at either end. -/
def trim (s : List Char) : List Char := trimEnd (trimStart s)

@[simp] theorem trimStart_nil : trimStart [] = [] := rfl
@[simp] theorem trimEnd_nil : trimEnd [] = [] := rfl
theorem trimStart_cons_of_blank {c : Char} (h : isBlank c = true) (s : List Char) :
    trimStart (c :: s) = trimStart s := by
  simp [trimStart, h]

theorem trimStart_cons_of_not_blank {c : Char} (h : isBlank c = false) (s : List Char) :
    trimStart (c :: s) = c :: s := by
  simp [trimStart, h]

theorem trimEnd_concat_of_blank {c : Char} (h : isBlank c = true) (s : List Char) :
    trimEnd (s ++ [c]) = trimEnd s := by
  simp [trimEnd, h]

theorem trimEnd_concat_of_not_blank {c : Char} (h : isBlank c = false) (s : List Char) :
    trimEnd (s ++ [c]) = s ++ [c] := by
  simp [trimEnd, h]

end GameFixes.Text

namespace GameFixes

/-- A string without the blanks at either end. -/
def trimmed (s : String) : String := String.ofList (Text.trim s.toList)

/-- A string without the blanks it ends with. -/
def trimmedEnd (s : String) : String := String.ofList (Text.trimEnd s.toList)

@[simp] theorem toList_trimmed (s : String) : (trimmed s).toList = Text.trim s.toList := by
  simp [trimmed]

@[simp] theorem toList_trimmedEnd (s : String) : (trimmedEnd s).toList = Text.trimEnd s.toList := by
  simp [trimmedEnd]

end GameFixes
