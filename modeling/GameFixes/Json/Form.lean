import GameFixes.Json.Record
import GameFixes.Text.Utf8

/-!
# Forms

A form says how values of a type are written as an outline and read back from JSON. Forms of
compound types are made of the forms of their parts, and every form carries the law that what is
written is read back.
-/

namespace GameFixes.Json

/-- A way to write the values of a type and to read them back. -/
structure Form (α : Type) where
  outline : α → Outline
  decode : Value → Option α
  decode_outline : ∀ a, decode (Value.ofOutline (outline a)) = some a

namespace Form

/-- A text. -/
def text : Form String := ⟨.text, Value.text?, fun _ => rfl⟩

/-- A truth value. -/
def flag : Form Bool := ⟨.flag, Value.flag?, fun _ => rfl⟩

/-- A value that stands for another one, which is written in its place. -/
def via {α β : Type} (form : Form β) (f : α → β) (g : β → Option α)
    (h : ∀ a, g (f a) = some a) : Form α where
  outline a := form.outline (f a)
  decode v := (form.decode v).bind g
  decode_outline a := by simp [form.decode_outline, h]

/-- Two values. -/
def pair {α β : Type} (first : Form α) (second : Form β) : Form (α × β) where
  outline a := .items [first.outline a.1, second.outline a.2]
  decode v :=
    match v with
    | .array [x, y] => (first.decode x).bind fun a => (second.decode y).map (a, ·)
    | _ => none
  decode_outline a := by
    simp [Value.ofOutline, Value.ofOutlines, first.decode_outline, second.decode_outline]

/-- One of two values. -/
def either {α β : Type} (left : Form α) (right : Form β) : Form (α ⊕ β) where
  outline a :=
    match a with
    | .inl a => .items [.flag false, left.outline a]
    | .inr b => .items [.flag true, right.outline b]
  decode v :=
    match v with
    | .array [.bool false, x] => (left.decode x).map .inl
    | .array [.bool true, x] => (right.decode x).map .inr
    | _ => none
  decode_outline a := by
    cases a <;>
      simp [Value.ofOutline, Value.ofOutlines, left.decode_outline, right.decode_outline]

/-- Any number of values. -/
def items {α : Type} (form : Form α) : Form (List α) where
  outline l := .items (l.map form.outline)
  decode := Value.items? form.decode
  decode_outline l := by
    induction l with
    | nil => rfl
    | cons a l ih =>
      simp only [Value.items?, List.map_cons, Value.ofOutline, Value.ofOutlines, List.mapM_cons,
        form.decode_outline] at ih ⊢
      simp [ih]

/-- A value that may be missing. -/
def optional {α : Type} (form : Form α) : Form (Option α) :=
  form.items.via (·.toList) (fun l => some l.head?) (by intro a; cases a <;> rfl)

/-- Bytes, as the characters with their numbers. -/
def bytes : Form (List UInt8) :=
  text.via (fun b => String.ofList (Text.octets b)) (fun s => some (Text.ofOctets s.toList))
    (by intro b; simp [Text.ofOctets_octets])

/-- The bytes of a number, those that count least first. -/
def bytesOfNat (n : Nat) : List UInt8 :=
  if n = 0 then [] else (n % 256).toUInt8 :: bytesOfNat (n / 256)

/-- The number with some bytes. -/
def natOfBytes (l : List UInt8) : Nat := l.foldr (fun b n => b.toNat + 256 * n) 0

theorem natOfBytes_bytesOfNat (n : Nat) : natOfBytes (bytesOfNat n) = n := by
  induction n using Nat.strongRecOn with
  | ind n ih =>
    unfold bytesOfNat
    split
    · rename_i h
      simp [natOfBytes, h]
    · rename_i h
      have hi := ih (n / 256) (by omega)
      simp only [natOfBytes, List.foldr_cons] at hi ⊢
      rw [hi, Nat.toUInt8_eq, UInt8.toNat_ofNat']
      omega

/-- A number that is not negative. -/
def natural : Form Nat :=
  bytes.via bytesOfNat (fun l => some (natOfBytes l)) (by simp [natOfBytes_bytesOfNat])

/-- A number. -/
def integer : Form Int :=
  (natural.either natural).via
    (fun n => match n with
      | .ofNat n => .inl n
      | .negSucc n => .inr n)
    (fun n => match n with
      | .inl n => some (.ofNat n)
      | .inr n => some (.negSucc n))
    (by intro n; cases n <;> rfl)

end Form

end GameFixes.Json
