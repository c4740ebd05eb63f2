import GameFixes.Installer.Known
import GameFixes.Log

/-!
# Compiling operations

The operations of one title become an installer document. Each operation is read on its own, as a
change or as nothing; the first one that cannot be read is the error of the whole list.
-/

namespace GameFixes.Installer

/-- Why operations cannot be compiled. -/
inductive CompileError
  /-- The operation has no known name. -/
  | unhandled (operation title : String)
  /-- The argument of the operation does not say what it must. -/
  | malformed (operation title : String) (fault : Fault)
  deriving DecidableEq, Repr

/-- The wording of a compile error. -/
def CompileError.message : CompileError → String
  | .unhandled operation title => "unhandled operation `" ++ operation ++ "` in " ++ title
  | .malformed operation title fault =>
    "malformed operation `" ++ operation ++ "` in " ++ title ++ ": " ++ fault.message

/-- The change that an operation of a title asks for; `none` if it changes nothing. -/
def changeOf (title : String) (o : Operation) : Except CompileError (Option Change) :=
  match Known.ofName? o.name with
  | none => .error (.unhandled o.text title)
  | some known =>
    match known.rule with
    | .apply change =>
      match change o with
      | .ok c => .ok (some c)
      | .error fault => .error (.malformed o.text title fault)
    | .hostOnly | .deferred => .ok none

/-- The changes that the operations of a title ask for. -/
def changesOf (title : String) : List Operation → Except CompileError (List Change)
  | [] => .ok []
  | o :: os =>
    match changeOf title o with
    | .error e => .error e
    | .ok c => (changesOf title os).map (c.toList ++ ·)

/-- The document of a title's operations. -/
def compile (title : String) (os : List Operation) : Except CompileError Document :=
  (changesOf title os).map fun cs => (Draft.changes {} cs).document

/-- The event that reports an operation that changes nothing. -/
def skipEvent? (title : String) (o : Operation) : Option Event :=
  let event (message : String) : Event :=
    ⟨.debug, message, [("title", .text title), ("operation", .text o.text)]⟩
  match (Known.ofName? o.name).map Known.rule with
  | some .hostOnly => some (event "skipping host-only operation")
  | some .deferred => some (event "skipping unsupported operation")
  | _ => none

/-- The events of a compilation, up to the operation that ends it. -/
def compileEvents (title : String) : List Operation → List Event
  | [] => []
  | o :: os =>
    match changeOf title o with
    | .error _ => []
    | .ok _ => (skipEvent? title o).toList ++ compileEvents title os

end GameFixes.Installer
