import GameFixes.Toml.Scalar

/-!
# Reading TOML

A text of lines, each of which is blank, a header or a field. Values nest at most 79 deep, and a key
has at most 79 parts.
-/

namespace GameFixes.Toml

/-- How deep values nest, and how many parts keys have, at most. -/
def depthLimit : Nat := 79

/-- What follows a comment and the line break after it, or the end of the text. -/
def afterComment? (s : List Char) : Option (List Char) :=
  match s.dropWhile isText with
  | [] => some []
  | s => afterBreak? s

/-- What follows the rest of a line: blanks, perhaps a comment, and the line break or the end. -/
def afterLine? (s : List Char) : Option (List Char) :=
  match skipSpace s with
  | [] => some []
  | '#' :: s => afterComment? s
  | s => afterBreak? s

/-- A text from its next token on, over line breaks and comments; `fuel` bounds their number. -/
def skipLines : (fuel : Nat) → List Char → List Char
  | 0, s => s
  | fuel + 1, s =>
    let s := skipSpace s
    match s with
    | '#' :: t =>
      match afterBreak? (t.dropWhile isText) with
      | some t => skipLines fuel t
      | none => s
    | s =>
      match afterBreak? s with
      | some t => skipLines fuel t
      | none => s

mutual

/-- Reads a value; `depth` bounds how deep it nests, and `fuel` the calls of the readers below one
another. -/
def readValue : (fuel depth : Nat) → List Char → Read Item
  | 0, _, _ => none
  | fuel + 1, depth, s =>
    match s with
    | '[' :: s =>
      match depth with
      | 0 => none
      | depth + 1 => (readItems fuel depth s).map fun (l, s) => (.array l, s)
    | '\x7b' :: s =>
      match depth with
      | 0 => none
      | depth + 1 =>
        match skipSpace s with
        | '\x7d' :: s => some (.table .inline [], s)
        | s => (readFields fuel depth [] s).map fun (l, s) => (.table .inline l, s)
    | s =>
      match readString s with
      | some (v, s) => some (.string (String.ofList v), s)
      | none => readWord s

/-- Reads the items of an array and its closing bracket. -/
def readItems : (fuel depth : Nat) → List Char → Read (List Item)
  | 0, _, _ => none
  | fuel + 1, depth, s =>
    match skipLines s.length s with
    | ']' :: s => some ([], s)
    | s =>
      match readValue fuel depth s with
      | none => none
      | some (v, s) =>
        match skipLines s.length s with
        | ',' :: s => (readItems fuel depth s).map fun (l, s) => (v :: l, s)
        | ']' :: s => some ([v], s)
        | _ => none

/-- Reads the fields of an inline table and its closing brace, given the fields before them. -/
def readFields : (fuel depth : Nat) → Fields → List Char → Read Fields
  | 0, _, _, _ => none
  | fuel + 1, depth, fs, s =>
    match readKeys depthLimit s with
    | none => none
    | some (keys, s) =>
      match s with
      | '=' :: s =>
        match readValue fuel depth (skipSpace s) with
        | none => none
        | some (v, s) =>
          match addField keys.dropLast (keys.getLastD "") v .inline fs with
          | none => none
          | some fs =>
            match skipSpace s with
            | ',' :: s => readFields fuel depth fs s
            | '\x7d' :: s => some (fs, s)
            | _ => none
      | _ => none

end

/-- What has been read of a text: the outermost table, and the path of the header read last. -/
structure Progress where
  fields : Fields := []
  table : List String := []

/-- Reads a header from behind its opening bracket on. -/
def readHeader (p : Progress) (s : List Char) : Option (Progress × List Char) :=
  match s with
  | '[' :: s =>
    match readKeys depthLimit s with
    | some (keys, ']' :: ']' :: s) => do
      let fs ← openElement keys.dropLast (keys.getLastD "") p.fields
      return (⟨fs, keys⟩, ← afterLine? s)
    | _ => none
  | s =>
    match readKeys depthLimit s with
    | some (keys, ']' :: s) => do
      let fs ← openTable keys.dropLast (keys.getLastD "") p.fields
      return (⟨fs, keys⟩, ← afterLine? s)
    | _ => none

/-- Reads a field. -/
def readField (p : Progress) (s : List Char) : Option (Progress × List Char) :=
  match readKeys depthLimit s with
  | some (keys, '=' :: s) => do
    let s := skipSpace s
    let (v, s) ← readValue (2 * s.length + 2) depthLimit s
    let fs ← addUnder p.table keys.dropLast (keys.getLastD "") v p.fields
    return (⟨fs, p.table⟩, ← afterLine? s)
  | _ => none

/-- Reads the lines of a text; `fuel` bounds their number. -/
def readLines : (fuel : Nat) → Progress → List Char → Option Fields
  | 0, _, _ => none
  | fuel + 1, p, s =>
    match skipSpace s with
    | [] => some p.fields
    | '#' :: s => (afterComment? s).bind (readLines fuel p)
    | '[' :: s => (readHeader p s).bind fun (p, s) => readLines fuel p s
    | s =>
      match afterBreak? s with
      | some s => readLines fuel p s
      | none => (readField p s).bind fun (p, s) => readLines fuel p s

/-- The outermost table of a text, which may start with a byte order mark. -/
def read? (s : String) : Option Fields :=
  let s := match s.toList with
    | '\uFEFF' :: s => s
    | s => s
  readLines (s.length + 1) {} s

end GameFixes.Toml
