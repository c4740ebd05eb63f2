import GameFixes.Layout
import GameFixes.Tree.Site

/-!
# The status of a layout

Which parts of a layout are there, and what the missing ones mean for its use.
-/

namespace GameFixes.Layout

/-- Which parts of a layout are there. -/
structure Status where
  stateDirExists : Bool
  fixesDirExists : Bool
  extraIdsExists : Bool
  /-- The size of the provider database, if there is one. -/
  databaseSize : Option Nat
  configExists : Bool
  deriving DecidableEq, Repr

/-- Whether there is a provider database. -/
def Status.databaseExists (s : Status) : Bool := s.databaseSize.isSome

/-- The warnings about missing parts. -/
def Status.warnings (s : Status) : List String :=
  ([(s.fixesDirExists, "fix mirror is missing; run `fixtool sync` first"),
    (s.extraIdsExists,
      extraIdsName ++ " is missing; reconciliation uses fix files only"),
    (s.databaseExists,
      "provider database is missing; run `fixtool db import <file>`")].filter (!·.1)).map (·.2)

/-- The size that a directory is said to have. -/
def dirSize : Nat := 4096

/-- The size that a sealed file is said to have. -/
def sealedSize : Nat := 40960

/-- The size of what stands at a place. -/
def sizeOf : Node → Nat
  | .file content => content.length
  | .sealed _ => sealedSize
  | .dir | .link _ => dirSize

/-- The size of the provider database. That it is not there is no failure, but that it cannot be
looked for is one. -/
def databaseSize (s : Site) (path : String) : Except Failure (Option Nat) :=
  match s.node path with
  | .ok n => .ok (some (sizeOf n))
  | .error .missing => .ok none
  | .error _ => .error (.inspect path)

/-- The status of a layout. -/
def status (s : Site) (l : Layout) : Except Failure Status := do
  return {
    stateDirExists := s.isDir l.stateDir
    fixesDirExists := s.isDir l.fixesDir.path
    extraIdsExists := s.isFile l.extraIds
    databaseSize := ← databaseSize s l.database
    configExists := s.isFile l.config.path }

end GameFixes.Layout
