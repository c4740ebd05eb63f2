import GameFixes.Installer.Conversion
import GameFixes.Proofs.Collection
import GameFixes.Proofs.Json.Record
import GameFixes.Proofs.Json.RoundTrip

/-!
# Documents as JSON

A document, written as JSON and read again, is the same document: sections that are there but set
nothing stay there, and a section, a field, a map or a list of steps that is left out is missing or
empty again.

* `GameSection.columns` and the like: the fields of a section or a document, each with its outline
  unless it is left out;
* `Document.ofJson?_outline`: a document from the value that says what its outline says;
* `document_of_render`: a document from its JSON text.
-/

namespace GameFixes.Installer

open Json (Value present sparse record?_present)

/-! ### Fields -/

theorem field_eq {α : Type} (name : String) (outline : α → Outline) (x : Option α) :
    field name outline x = ((x.map outline).map (name, ·)).toList := by
  cases x <;> rfl

/-- The outline of texts by their keys. -/
def textsOutline (m : TextMap String) : Outline :=
  .fields (m.entries.map fun (k, v) => (k, .text v))

theorem textsField_eq (name : String) (m : TextMap String) :
    textsField name m = ((sparse m.isEmpty (textsOutline m)).map (name, ·)).toList := by
  unfold textsField sparse
  split_ifs <;> rfl

theorem optional_text (x : Option String) :
    Json.optional Value.text? ((x.map .text).map Value.ofOutline) = some x :=
  Json.optional_map (fun _ => rfl) x

theorem optional_flag (x : Option Bool) :
    Json.optional Value.flag? ((x.map .flag).map Value.ofOutline) = some x :=
  Json.optional_map (fun _ => rfl) x

theorem texts?_textsOutline (m : TextMap String) :
    Value.texts? (Value.ofOutline (textsOutline m)) = some m := by
  have htexts : (m.entries.map fun p : String × String => (p.1, Value.ofOutline (.text p.2))).mapM
      (fun p : String × Value => p.2.text?.map (p.1, ·)) = some m.entries := by
    rw [List.mapM_map]
    exact (mapM_eq_some_map (g := id) fun _ _ => rfl).trans (by rw [List.map_id])
  rw [textsOutline, Value.ofOutline, Value.texts?, Json.keys?_ofFields, List.map_map]
  change Option.bind (List.mapM _ (m.entries.map fun p : String × String =>
    (p.1, Value.ofOutline (.text p.2)))) _ = _
  rw [htexts, Option.bind_some, TextMap.ofList_entries]
  rfl

theorem defaulted_texts (m : TextMap String) :
    Json.defaulted ∅ Value.texts? ((sparse m.isEmpty (textsOutline m)).map Value.ofOutline) =
      some m :=
  Json.defaulted_sparse texts?_textsOutline (fun _ => TextMap.isEmpty_iff.1) m

/-! ### Sections and steps -/

/-- The fields of a section. -/
def GameSection.columns (g : GameSection) : List (String × Option Outline) :=
  [("exe", g.exe.map .text), ("args", g.args.map .text)]

theorem GameSection.outline_eq (g : GameSection) : g.outline = .fields (present g.columns) := by
  simp [outline, columns, field_eq]

theorem GameSection.ofJson?_outline (g : GameSection) :
    GameSection.ofJson? (Value.ofOutline g.outline) = some g := by
  have hnames : (g.columns.map Prod.fst).Nodup := by simp [columns]
  have hfields : (Value.ofOutline g.outline).record? [["exe"], ["args"]] = _ :=
    g.outline_eq ▸ record?_present hnames
  rw [ofJson?, hfields]
  simp only [columns, List.map_cons, List.map_nil, Option.bind_eq_bind, Option.bind_some,
    optional_text]
  rfl

theorem Task.ofJson?_outline (t : Task) : Task.ofJson? (Value.ofOutline t.outline) = some t := rfl

/-- The fields of a section. -/
def WineSection.columns (w : WineSection) : List (String × Option Outline) :=
  [("overrides", sparse w.overrides.isEmpty (textsOutline w.overrides)), ("eac", w.eac.map .flag),
    ("battleye", w.battleye.map .flag), ("esync", w.esync.map .flag), ("fsync", w.fsync.map .flag)]

theorem WineSection.outline_eq (w : WineSection) : w.outline = .fields (present w.columns) := by
  simp [outline, columns, field_eq, textsField_eq]

theorem WineSection.ofJson?_outline (w : WineSection) :
    WineSection.ofJson? (Value.ofOutline w.outline) = some w := by
  have hnames : (w.columns.map Prod.fst).Nodup := by simp [columns]
  have hfields : (Value.ofOutline w.outline).record?
      [["overrides"], ["eac"], ["battleye"], ["esync"], ["fsync"]] = _ :=
    w.outline_eq ▸ record?_present hnames
  rw [ofJson?, hfields]
  simp only [columns, List.map_cons, List.map_nil, Option.bind_eq_bind, Option.bind_some,
    defaulted_texts, optional_flag]
  rfl

/-- The fields of a section. -/
def SystemSection.columns (s : SystemSection) : List (String × Option Outline) :=
  [("env", sparse s.env.isEmpty (textsOutline s.env)), ("single_cpu", s.singleCpu.map .flag),
    ("limit_cpu_count", s.limitCpuCount.map .text)]

theorem SystemSection.outline_eq (s : SystemSection) : s.outline = .fields (present s.columns) := by
  simp [outline, columns, field_eq, textsField_eq]

theorem SystemSection.ofJson?_outline (s : SystemSection) :
    SystemSection.ofJson? (Value.ofOutline s.outline) = some s := by
  have hnames : (s.columns.map Prod.fst).Nodup := by simp [columns]
  have hfields : (Value.ofOutline s.outline).record?
      [["env"], ["single_cpu"], ["limit_cpu_count"]] = _ :=
    s.outline_eq ▸ record?_present hnames
  rw [ofJson?, hfields]
  simp only [columns, List.map_cons, List.map_nil, Option.bind_eq_bind, Option.bind_some,
    defaulted_texts, optional_flag, optional_text]
  rfl

/-! ### Documents -/

/-- The fields of a document. -/
def Document.columns (d : Document) : List (String × Option Outline) :=
  [("game", d.game.map GameSection.outline),
    ("installer", sparse d.steps.isEmpty (.items (d.steps.map Task.outline))),
    ("wine", d.wine.map WineSection.outline), ("system", d.system.map SystemSection.outline)]

theorem Document.outline_eq (d : Document) : d.outline = .fields (present d.columns) := by
  have hsteps : (if d.steps.isEmpty then []
      else [("installer", Outline.items (d.steps.map Task.outline))]) =
      ((sparse d.steps.isEmpty (.items (d.steps.map Task.outline))).map
        ("installer", ·)).toList := by
    unfold sparse
    split_ifs <;> rfl
  simp only [outline, columns, hsteps, field_eq, Json.present_cons, Json.present_nil,
    List.append_nil, List.append_assoc]

/-- A document is read from the value that says what its outline says. -/
theorem Document.ofJson?_outline (d : Document) :
    Document.ofJson? (Value.ofOutline d.outline) = some d := by
  have hnames : (d.columns.map Prod.fst).Nodup := by simp [columns]
  have hfields : (Value.ofOutline d.outline).record? [["game"], ["installer"], ["wine"], ["system"]]
      = _ := d.outline_eq ▸ record?_present hnames
  have hsteps := Json.defaulted_sparse (Json.items?_map Task.ofJson?_outline)
    (fun (l : List Task) (h : l.isEmpty = true) => List.isEmpty_iff.1 h) d.steps
  rw [ofJson?, hfields]
  simp only [columns, List.map_cons, List.map_nil, Option.bind_eq_bind, Option.bind_some, hsteps,
    Json.optional_map GameSection.ofJson?_outline, Json.optional_map WineSection.ofJson?_outline,
    Json.optional_map SystemSection.ofJson?_outline]
  rfl

/-- **A document is read again from its JSON text**, whichever sections, fields, steps and bindings
it has. -/
theorem document_of_render (d : Document) :
    (Json.read? (Format.json.render d)).bind Document.ofJson? = some d := by
  rw [Format.render, Json.read?_render, Option.bind_some, Document.ofJson?_outline]

end GameFixes.Installer
