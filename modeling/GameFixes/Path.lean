/-!
# Paths

Paths as texts. Joining, taking the parent and writing them for people change nothing in a path that
they do not have to.
-/

namespace GameFixes.Path

/-- Whether a path starts at the root. -/
def isAbsolute (p : String) : Bool := p.toList.head? == some '/'

/-- A path inside another one. An absolute path replaces it; otherwise a slash stands between the
two, unless the first is empty or ends with one. -/
def join (base p : String) : String :=
  if isAbsolute p then p
  else if base.isEmpty || base.toList.getLast? == some '/' then base ++ p
  else base ++ "/" ++ p

/-- The texts between the slashes. -/
def segments : List Char → List (List Char)
  | [] => [[]]
  | c :: s =>
    if c = '/' then [] :: segments s
    else
      match segments s with
      | [] => [[c]]
      | x :: xs => (c :: x) :: xs

/-- Whether a segment leads nowhere. -/
def isIdle (segment : List Char) : Bool := segment.isEmpty || segment == ['.']

/-- Segments without the idle ones at the end. -/
def dropIdleEnd (l : List (List Char)) : List (List Char) := (l.reverse.dropWhile isIdle).reverse

/-- The start of a path that is no segment: the root, or a dot that stands first. -/
def anchor : List Char → List Char × List Char
  | '/' :: s => (['/'], s)
  | ['.'] => (['.'], [])
  | '.' :: '/' :: s => (['.'], '/' :: s)
  | s => ([], s)

/-- The path without its last segment; the root and the empty path have none. -/
def parent? (p : String) : Option String :=
  let (start, rest) := anchor p.toList
  match dropIdleEnd (segments rest) with
  | [] => if start = ['.'] then some "" else none
  | l =>
    some (String.ofList (start ++ List.intercalate ['/'] (dropIdleEnd l.dropLast)))

/-- A path and its parents, from the inside out; `fuel` bounds their number. -/
def ancestorsWithin : (fuel : Nat) → String → List String
  | 0, p => [p]
  | fuel + 1, p =>
    p :: match parent? p with
      | some q => ancestorsWithin fuel q
      | none => []

/-- A path and its parents, from the inside out. -/
def ancestors (p : String) : List String := ancestorsWithin p.length p

/-- A path for people, who may have typed backslashes. -/
def display (p : String) : String := p.map fun c => if c = '\\' then '/' else c

end GameFixes.Path
