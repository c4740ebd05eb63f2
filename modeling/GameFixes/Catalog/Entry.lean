import GameFixes.Collection.TextMap
import GameFixes.Json.Reader
import GameFixes.Json.Record

/-!
# Catalogs

A catalog lists games with the identifiers under which fixes know them. It is read from a JSON
array, entry by entry.
-/

namespace GameFixes.Catalog

/-- One game of a catalog. -/
structure Entry where
  catalogId : String
  title : String
  codeName : Option String := none
  store : Option String := none
  deriving DecidableEq, Repr

/-- Why a text is no catalog. -/
inductive Fault
  /-- An entry has none of the three identifiers. -/
  | missingId
  /-- The text is not well-formed, or a field does not have its type. -/
  | malformed
  deriving DecidableEq, Repr

/-- The fields of an entry, of which the code name has two spellings. -/
def fieldNames : List (List String) :=
  [["catalog_id"], ["umu_id"], ["ulwgl_id"], ["title"], ["code_name", "codename"], ["store"]]

open Json in
/-- The entry that a JSON value says. Of the three identifiers the first one given counts, and a
title that is missing or null is empty. -/
def Entry.ofJson (v : Value) : Except Fault Entry :=
  let fields := do
    (← v.record? fieldNames).mapM (optional Value.text?)
  match fields with
  | some [catalogId, umuId, ulwglId, title, codeName, store] =>
    match (catalogId <|> umuId) <|> ulwglId with
    | some id => .ok ⟨id, title.getD "", codeName, store⟩
    | none => .error .missingId
  | _ => .error .malformed

/-- The entries that JSON values say, or the fault of the first that says none. -/
def entriesOf : List Json.Value → Except Fault (List Entry)
  | [] => .ok []
  | v :: vs =>
    match Entry.ofJson v with
    | .ok e => (entriesOf vs).map (e :: ·)
    | .error fault => .error fault

/-- The entries of a catalog. An entry in front of a fault in the text is decoded before it. -/
def parse (content : String) : Except Fault (List Entry) :=
  match Json.readArray? content with
  | none => .error .malformed
  | some (values, complete) =>
    match entriesOf values with
    | .ok entries => if complete then .ok entries else .error .malformed
    | .error fault => .error fault

/-- The entries by their identifiers; those of one identifier keep their order. -/
def group (entries : List Entry) : TextMap (List Entry) :=
  entries.foldl (fun m (e : Entry) => m.alter e.catalogId fun l => l.getD [] ++ [e]) ∅

end GameFixes.Catalog
