/-!
# Texts as bytes

The bytes that spell a text, the text that bytes spell, and a reading of any bytes in which each
ill-formed part becomes one replacement character. An ill-formed part is the longest run of bytes
that could have begun a character, and at least one byte.
-/

namespace GameFixes.Text

/-- The UTF-8 bytes of a text. -/
def encode (s : List Char) : List UInt8 := s.flatMap String.utf8EncodeChar

@[simp] theorem encode_nil : encode [] = [] := rfl

@[simp] theorem encode_append (s t : List Char) : encode (s ++ t) = encode s ++ encode t := by
  simp [encode]

/-- For the first byte of a longer character: how many bytes follow it, and the values the next of
them may take. -/
def leadByte (b : UInt8) : Option (Nat × UInt8 × UInt8) :=
  if 0xC2 ≤ b ∧ b ≤ 0xDF then some (1, 0x80, 0xBF)
  else if b = 0xE0 then some (2, 0xA0, 0xBF)
  else if b = 0xED then some (2, 0x80, 0x9F)
  else if 0xE1 ≤ b ∧ b ≤ 0xEF then some (2, 0x80, 0xBF)
  else if b = 0xF0 then some (3, 0x90, 0xBF)
  else if 0xF1 ≤ b ∧ b ≤ 0xF3 then some (3, 0x80, 0xBF)
  else if b = 0xF4 then some (3, 0x80, 0x8F)
  else none

/-- Reads `n` more bytes of a character whose bits so far are `acc`; the next byte lies between
`lo` and `hi`. Without a character, the rest starts at the byte that does not fit. -/
def continueChar : (n acc : Nat) → (lo hi : UInt8) → List UInt8 → Option Char × List UInt8
  | 0, acc, _, _, bs => (some (Char.ofNat acc), bs)
  | _ + 1, _, _, _, [] => (none, [])
  | n + 1, acc, lo, hi, b :: bs =>
    if lo ≤ b ∧ b ≤ hi then continueChar n (acc * 64 + (b.toNat - 0x80)) 0x80 0xBF bs
    else (none, b :: bs)

/-- Reads the character that starts with byte `b`, or the ill-formed part that does. -/
def readChar (b : UInt8) (bs : List UInt8) : Option Char × List UInt8 :=
  if b < 0x80 then (some (Char.ofNat b.toNat), bs)
  else
    match leadByte b with
    | none => (none, bs)
    | some (n, lo, hi) => continueChar n (b.toNat % (64 >>> n)) lo hi bs

theorem continueChar_length (n acc : Nat) (lo hi : UInt8) (bs : List UInt8) :
    (continueChar n acc lo hi bs).2.length ≤ bs.length := by
  fun_induction continueChar n acc lo hi bs with
  | case1 => simp
  | case2 => simp
  | case3 n acc lo hi b bs h ih =>
    simp only [List.length_cons]
    omega
  | case4 => simp

/-- Reading takes the first byte at least. -/
theorem readChar_length (b : UInt8) (bs : List UInt8) :
    (readChar b bs).2.length ≤ bs.length := by
  unfold readChar
  split
  · simp
  · split
    · simp
    · exact continueChar_length ..

/-- The text that bytes spell, each ill-formed part read as U+FFFD. -/
def decodeLossy : List UInt8 → List Char
  | [] => []
  | b :: bs => (readChar b bs).1.getD '\uFFFD' :: decodeLossy (readChar b bs).2
  termination_by bs => bs.length
  decreasing_by have := readChar_length b bs; simp; omega

/-- The text that bytes spell, if they are well-formed. -/
def decode? : List UInt8 → Option (List Char)
  | [] => some []
  | b :: bs =>
    match (readChar b bs).1 with
    | some c => (decode? (readChar b bs).2).map (c :: ·)
    | none => none
  termination_by bs => bs.length
  decreasing_by have := readChar_length b bs; simp; omega

/-- A text that bytes spell is also what the lenient reading gives. -/
theorem decodeLossy_of_decode? {bs : List UInt8} {s : List Char} (h : decode? bs = some s) :
    decodeLossy bs = s := by
  fun_induction decode? bs generalizing s with
  | case1 => simpa [decodeLossy] using h
  | case2 b bs c hc ih =>
    obtain ⟨t, ht, rfl⟩ := Option.map_eq_some_iff.1 h
    simp [decodeLossy, hc, ih ht]
  | case3 => simp at h

/-! ### Octets as characters

Bytes of which nobody knows what text they are, as characters: each byte is the character with its
number. What is written in ASCII among them can be read in this form, and nothing is lost. -/

/-- The characters with the numbers of bytes. -/
def octets (bytes : List UInt8) : List Char := bytes.map fun b => Char.ofNat b.toNat

/-- The bytes whose numbers characters have. -/
def ofOctets (s : List Char) : List UInt8 := s.map fun c => c.toNat.toUInt8

theorem toNat_octet (b : UInt8) : (Char.ofNat b.toNat).toNat = b.toNat := by
  have h : b.toNat.isValidChar := Or.inl (by have := b.toNat_lt; omega)
  rw [Char.ofNat, dif_pos h]
  rfl

/-- Bytes are what their characters spell. -/
theorem ofOctets_octets (bytes : List UInt8) : ofOctets (octets bytes) = bytes := by
  induction bytes with
  | nil => rfl
  | cons b bytes ih =>
    simp only [ofOctets, octets, List.map_cons] at ih ⊢
    rw [ih, toNat_octet]
    simp

end GameFixes.Text

namespace GameFixes

/-- The UTF-8 bytes of a string. -/
def bytesOf (s : String) : List UInt8 := Text.encode s.toList

/-- The string that bytes spell, if they are well-formed. -/
def stringOf? (bs : List UInt8) : Option String := (Text.decode? bs).map String.ofList

/-- The string that bytes spell, each ill-formed part read as U+FFFD. -/
def stringOfLossy (bs : List UInt8) : String := String.ofList (Text.decodeLossy bs)

end GameFixes
