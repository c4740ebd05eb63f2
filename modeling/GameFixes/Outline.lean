/-!
# Outlines

Trees of texts and flags: what a document or a listing holds, before it is written in one format or
another. The fields of an outline stand in the order in which they are written.
-/

namespace GameFixes

/-- A tree of texts and flags. -/
inductive Outline
  | flag (value : Bool)
  | text (value : String)
  | items (values : List Outline)
  | fields (values : List (String × Outline))
  deriving Repr

end GameFixes
