import GameFixes.Depot.Stage
import GameFixes.Json.Form
import GameFixes.Json.Reader
import GameFixes.Json.Writer
import GameFixes.Text.Utf8

/-!
# Saved archives and stages

An archive or a stage as the content of a sealed file, a JSON text of all that is in it. Bytes stand
in it as the characters with their numbers.
-/

namespace GameFixes.Depot

open Json (Form)
open Json.Form (bytes)

namespace Saved

/-! ### Parts -/

/-- A place. -/
def place : Form Place := bytes.items

/-- What kind of thing something is. -/
def kind : Form Kind :=
  Form.text.via Kind.digits
    (fun s => [.file, .program, .link, .directory, .nested].find? (·.digits = s))
    (by intro k; cases k <;> decide)

/-- An item. -/
def item : Form Item :=
  (kind.pair .text).via (fun i => (i.kind, i.name)) (fun (k, n) => some ⟨k, n⟩) (fun _ => rfl)

/-- A signature. -/
def signature : Form Signature :=
  (Form.text.pair (Form.text.pair .text)).via (fun s => (s.name, s.email, s.time))
    (fun (n, e, t) => some ⟨n, e, t⟩) (fun _ => rfl)

/-- A commit. -/
def commit : Form Commit :=
  (Form.text.pair (Form.text.items.pair (signature.pair (signature.pair .text)))).via
    (fun c => (c.tree, c.parents, c.author, c.committer, c.message))
    (fun (t, p, a, c, m) => some ⟨t, p, a, c, m⟩) (fun _ => rfl)

/-- A tag. -/
def tag : Form Tag :=
  (Form.text.pair (Form.text.pair (Form.text.pair (signature.pair .text)))).via
    (fun t => (t.target, t.targetWord, t.name, t.tagger, t.message))
    (fun (t, w, n, s, m) => some ⟨t, w, n, s, m⟩) (fun _ => rfl)

/-- An object. -/
def object : Form Object :=
  ((bytes.either (bytes.pair item).items).either (commit.either tag)).via
    (fun o => match o with
      | .blob b => .inl (.inl b)
      | .tree l => .inl (.inr l)
      | .commit c => .inr (.inl c)
      | .tag t => .inr (.inr t))
    (fun o => match o with
      | .inl (.inl b) => some (.blob b)
      | .inl (.inr l) => some (.tree l)
      | .inr (.inl c) => some (.commit c)
      | .inr (.inr t) => some (.tag t))
    (by intro o; cases o <;> rfl)

/-- What stands at a place. -/
def node : Form Node :=
  ((bytes.either bytes).either (bytes.either Form.flag)).via
    (fun n => match n with
      | .file b => .inl (.inl b)
      | .sealed b => .inl (.inr b)
      | .link b => .inr (.inl b)
      | .dir => .inr (.inr true))
    (fun n => match n with
      | .inl (.inl b) => some (.file b)
      | .inl (.inr b) => some (.sealed b)
      | .inr (.inl b) => some (.link b)
      | .inr (.inr _) => some .dir)
    (by intro n; cases n <;> rfl)

/-- What is staged for a place. -/
def entry : Form Entry :=
  (item.pair (node.optional.pair (Form.flag.pair .flag))).via
    (fun e => (e.item, e.seen, e.isIntended, e.isHeld))
    (fun (i, s, isIntended, isHeld) => some ⟨i, s, isIntended, isHeld⟩) (fun _ => rfl)

/-- What the sides of a merge have at a place. -/
def conflict : Form Conflict :=
  (item.optional.pair (item.optional.pair item.optional)).via
    (fun c => (c.base, c.ours, c.theirs)) (fun (b, o, t) => some ⟨b, o, t⟩) (fun _ => rfl)

/-! ### The whole -/

/-- An archive. -/
def archive : Form Archive :=
  (Form.flag.pair ((Form.text.pair object).items.pair Form.text.items)).via
    (fun a => (a.naming == .long, a.objects, a.cuts))
    (fun (isLong, o, c) => some ⟨if isLong then .long else .short, o, c⟩)
    (by rintro ⟨n, o, c⟩; cases n <;> rfl)

/-- A stage. -/
def stage : Form Stage :=
  ((place.pair entry).items.pair (place.pair conflict).items).via
    (fun s => (s.entries, s.conflicts)) (fun (e, c) => some ⟨e, c⟩) (fun _ => rfl)

/-- The content of a file in which a value is saved. -/
def toBytes {α : Type} (form : Form α) (a : α) : List UInt8 :=
  bytesOf (Json.render (form.outline a))

/-- The value that the content of a file says. -/
def ofBytes? {α : Type} (form : Form α) (content : List UInt8) : Option α :=
  ((stringOf? content).bind Json.read?).bind form.decode

end Saved

end GameFixes.Depot
