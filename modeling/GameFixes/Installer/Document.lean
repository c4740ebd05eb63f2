import GameFixes.Collection.TextMap
import GameFixes.Json.Record
import GameFixes.Outline

/-!
# Installer documents

What a launcher is to do to install a game with its fixes. A document is sparse: sections and fields
that say nothing are left out when it is written.
-/

namespace GameFixes.Installer

/-- What is started, and how. -/
structure GameSection where
  exe : Option String := none
  args : Option String := none
  deriving DecidableEq

/-- One step of the installation: a tool and what it installs. -/
structure Task where
  name : String
  app : String
  deriving DecidableEq

/-- The settings of the compatibility layer. -/
structure WineSection where
  overrides : TextMap String := ∅
  eac : Option Bool := none
  battleye : Option Bool := none
  esync : Option Bool := none
  fsync : Option Bool := none
  deriving DecidableEq

/-- The settings of the process. -/
structure SystemSection where
  env : TextMap String := ∅
  singleCpu : Option Bool := none
  limitCpuCount : Option String := none
  deriving DecidableEq

/-- An installer document. -/
structure Document where
  game : Option GameSection := none
  steps : List Task := []
  wine : Option WineSection := none
  system : Option SystemSection := none
  deriving DecidableEq

/-- Whether a section sets nothing. -/
def GameSection.isEmpty (g : GameSection) : Bool := g.exe.isNone && g.args.isNone

/-- Whether a section sets nothing. -/
def WineSection.isEmpty (w : WineSection) : Bool :=
  w.overrides.isEmpty && w.eac.isNone && w.battleye.isNone && w.esync.isNone && w.fsync.isNone

/-- Whether a section sets nothing. -/
def SystemSection.isEmpty (s : SystemSection) : Bool :=
  s.env.isEmpty && s.singleCpu.isNone && s.limitCpuCount.isNone

/-- Whether a document has no section and no step. -/
def Document.isEmpty (d : Document) : Bool :=
  d.game.isNone && d.steps.isEmpty && d.wine.isNone && d.system.isNone

/-! ### What a document says -/

/-- A field that is left out when it has no value. -/
def field {α : Type} (name : String) (outline : α → Outline) : Option α → List (String × Outline)
  | none => []
  | some a => [(name, outline a)]

/-- A field of texts by their keys, left out when there are none. -/
def textsField (name : String) (m : TextMap String) : List (String × Outline) :=
  if m.isEmpty then [] else [(name, .fields (m.entries.map fun (k, v) => (k, .text v)))]

/-- The outline of a section. -/
def GameSection.outline (g : GameSection) : Outline :=
  .fields (field "exe" .text g.exe ++ field "args" .text g.args)

/-- The outline of a step. -/
def Task.outline (t : Task) : Outline :=
  .fields [("task", .fields [("name", .text t.name), ("app", .text t.app)])]

/-- The outline of a section. -/
def WineSection.outline (w : WineSection) : Outline :=
  .fields (textsField "overrides" w.overrides ++ field "eac" .flag w.eac ++
    field "battleye" .flag w.battleye ++ field "esync" .flag w.esync ++
    field "fsync" .flag w.fsync)

/-- The outline of a section. -/
def SystemSection.outline (s : SystemSection) : Outline :=
  .fields (textsField "env" s.env ++ field "single_cpu" .flag s.singleCpu ++
    field "limit_cpu_count" .text s.limitCpuCount)

/-- The outline of a document, which every written form follows. -/
def Document.outline (d : Document) : Outline :=
  .fields (field "game" GameSection.outline d.game ++
    (if d.steps.isEmpty then [] else [("installer", .items (d.steps.map Task.outline))]) ++
    field "wine" WineSection.outline d.wine ++ field "system" SystemSection.outline d.system)

/-! ### Reading a document -/

open Json in
/-- The section that a JSON value says. -/
def GameSection.ofJson? (v : Value) : Option GameSection := do
  match ← v.record? [["exe"], ["args"]] with
  | [exe, args] => return ⟨← optional Value.text? exe, ← optional Value.text? args⟩
  | _ => none

open Json in
/-- The step that a JSON value says. -/
def Task.ofJson? (v : Value) : Option Task := do
  match ← v.record? [["task"]] with
  | [some task] =>
    match ← task.record? [["name"], ["app"]] with
    | [name, app] => return ⟨← required Value.text? name, ← required Value.text? app⟩
    | _ => none
  | _ => none

open Json in
/-- The section that a JSON value says. -/
def WineSection.ofJson? (v : Value) : Option WineSection := do
  match ← v.record? [["overrides"], ["eac"], ["battleye"], ["esync"], ["fsync"]] with
  | [overrides, eac, battleye, esync, fsync] =>
    return ⟨← defaulted ∅ Value.texts? overrides, ← optional Value.flag? eac,
      ← optional Value.flag? battleye, ← optional Value.flag? esync, ← optional Value.flag? fsync⟩
  | _ => none

open Json in
/-- The section that a JSON value says. -/
def SystemSection.ofJson? (v : Value) : Option SystemSection := do
  match ← v.record? [["env"], ["single_cpu"], ["limit_cpu_count"]] with
  | [env, singleCpu, limitCpuCount] =>
    return ⟨← defaulted ∅ Value.texts? env, ← optional Value.flag? singleCpu,
      ← optional Value.text? limitCpuCount⟩
  | _ => none

open Json in
/-- The document that a JSON value says. -/
def Document.ofJson? (v : Value) : Option Document := do
  match ← v.record? [["game"], ["installer"], ["wine"], ["system"]] with
  | [game, steps, wine, system] =>
    return ⟨← optional GameSection.ofJson? game, ← defaulted [] (Value.items? Task.ofJson?) steps,
      ← optional WineSection.ofJson? wine, ← optional SystemSection.ofJson? system⟩
  | _ => none

end GameFixes.Installer
