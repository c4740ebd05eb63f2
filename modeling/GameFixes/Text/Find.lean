/-!
# Finding a text inside another

A text that starts with another one, and the first place where a text occurs.
-/

namespace GameFixes.Text

/-- What follows `p` in a text that starts with `p`. -/
def after? : (p s : List Char) → Option (List Char)
  | [], s => some s
  | _ :: _, [] => none
  | a :: p, c :: s => if a = c then after? p s else none

/-- The parts of a text before and after the first place where `p` occurs. -/
def splitFirst? (p : List Char) : List Char → Option (List Char × List Char)
  | [] => (after? p []).map ([], ·)
  | c :: s =>
    match after? p (c :: s) with
    | some rest => some ([], rest)
    | none => (splitFirst? p s).map fun (before, rest) => (c :: before, rest)

/-- The parts of a list between the places of a separator. -/
def splitOn {α : Type} [DecidableEq α] (separator : α) : List α → List (List α)
  | [] => [[]]
  | a :: l =>
    if a = separator then [] :: splitOn separator l
    else
      match splitOn separator l with
      | [] => [[a]]
      | part :: parts => (a :: part) :: parts

/-- Whether `p` occurs in a text. -/
def occurs (p s : List Char) : Bool := (splitFirst? p s).isSome

/-- A text without its last character, when that is `c`. -/
def dropLast? (c : Char) (s : List Char) : Option (List Char) :=
  if s.getLast? = some c then some s.dropLast else none

/-- A text without `p` at its start, if it starts with `p`. -/
def withoutStart (p s : List Char) : List Char := (after? p s).getD s

@[simp] theorem after?_nil (s : List Char) : after? [] s = some s := by
  cases s <;> rfl

@[simp] theorem after?_append (p s : List Char) : after? p (p ++ s) = some s := by
  induction p with
  | nil => simp
  | cons a p ih => simp [after?, ih]

theorem after?_eq_some_iff {p s rest : List Char} : after? p s = some rest ↔ s = p ++ rest := by
  constructor
  · fun_induction after? p s with
    | case1 s => simp
    | case2 => simp
    | case3 a p s ih => simpa using ih
    | case4 => simp
  · rintro rfl
    simp

/-- The two parts, with `p` between them, make up the text. -/
theorem eq_of_splitFirst?_eq_some {p s before rest : List Char}
    (h : splitFirst? p s = some (before, rest)) : s = before ++ p ++ rest := by
  fun_induction splitFirst? p s generalizing before with
  | case1 =>
    obtain ⟨r, hr, e⟩ := Option.map_eq_some_iff.1 h
    obtain ⟨rfl, rfl⟩ := Prod.mk.inj e
    simpa using after?_eq_some_iff.1 hr
  | case2 c s r hr =>
    obtain ⟨rfl, rfl⟩ := Prod.mk.inj (Option.some.inj h)
    simpa using after?_eq_some_iff.1 hr
  | case3 c s hr ih =>
    obtain ⟨⟨b, r⟩, hb, e⟩ := Option.map_eq_some_iff.1 h
    obtain ⟨rfl, rfl⟩ := Prod.mk.inj e
    simp [ih hb]

@[simp] theorem dropLast?_concat (c : Char) (s : List Char) : dropLast? c (s ++ [c]) = some s := by
  simp [dropLast?]

theorem eq_of_dropLast?_eq_some {c : Char} {s t : List Char} (h : dropLast? c s = some t) :
    s = t ++ [c] := by
  unfold dropLast? at h
  split at h
  · cases h
    rename_i hl
    obtain ⟨u, rfl⟩ := List.getLast?_eq_some_iff.1 hl
    simp
  · simp at h

end GameFixes.Text
