import GameFixes.Catalog.Entry
import GameFixes.Provider.Record
import GameFixes.Settings
import GameFixes.Tree.Site

/-!
# Files

The files that requests read from a site: settings, catalogs and provider records. A file that is
not there is a failure, except for settings, which are then all left to their defaults.
-/

namespace GameFixes

/-- The text of the file at a path. -/
def textOf (s : Site) (path : String) : Except Failure String :=
  match s.readText? path with
  | some text => .ok text
  | none => .error (.read path)

/-- The settings in a file, if there is one. -/
def Settings.load (s : Site) (path : String) : Except Failure Settings := do
  if s.contains path then
    match Settings.parse? (← textOf s path) with
    | some settings => return settings
    | none => throw (.settings path)
  else return {}

/-- The entries of a catalog file. -/
def Catalog.load (s : Site) (path : String) : Except Failure (List Catalog.Entry) := do
  match Catalog.parse (← textOf s path) with
  | .ok entries => return entries
  | .error fault => throw (.catalogFile path fault)

/-- The record set in a file. -/
def Provider.RecordSet.load (s : Site) (path : String) : Except Failure Provider.RecordSet := do
  match Provider.RecordSet.parse? (← textOf s path) with
  | some records => return records
  | none => throw (.records path)

end GameFixes
