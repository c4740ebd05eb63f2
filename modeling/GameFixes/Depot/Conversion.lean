import GameFixes.Depot.Filter
import GameFixes.Depot.LineEnding
import GameFixes.Depot.Object
import GameFixes.Text.Utf16

/-!
# Conversions

What is kept of a file is not always what stands in the directory: a filter may change it, it may be
spelt in another way there, lines may end differently, and the name of the content may be put into
it. All this is asked for by attributes and settings.
-/

namespace GameFixes.Depot

/-- A filter: what content runs through on its way into the depot and out of it. -/
structure ContentFilter where
  clean : Option (List Char) := none
  smudge : Option (List Char) := none
  /-- Whether nothing goes on without it. -/
  isRequired : Bool := false
  deriving DecidableEq, Repr

/-- What is done to the content of a file. -/
structure Conversion where
  filter : Option ContentFilter := none
  /-- How texts are spelt in the directory, in so many words. -/
  encoding : Option (List Char) := none
  ending : LineEnding := .untouched
  /-- Whether the mark for the name of the content is filled in. -/
  hasIdent : Bool := false
  /-- Whether line endings may not be lost. -/
  isStrict : Bool := false
  deriving DecidableEq, Repr

namespace Conversion

/-! ### Spellings -/

/-- A spelling of texts as bytes. -/
inductive Spelling
  | utf8
  /-- One byte each, up to a limit. -/
  | single (limit : Nat)
  /-- Units of some bytes; the order is given, or else said by a mark. -/
  | wide (width : Nat) (isBig : Option Bool) (hasMark : Bool)
  deriving DecidableEq, Repr

/-- The spelling that a name says. -/
def spellingOf? (name : List Char) : Option Spelling :=
  let name := name.map Char.toUpper
  let name := match Text.after? "UTF".toList name with
    | some ('-' :: rest) => "UTF".toList ++ rest
    | _ => name
  [("UTF8", .utf8), ("UTF16", .wide 2 none true), ("UTF16LE", .wide 2 (some false) false),
    ("UTF16BE", .wide 2 (some true) false), ("UTF16LE-BOM", .wide 2 (some false) true),
    ("UTF16BE-BOM", .wide 2 (some true) true), ("UTF32", .wide 4 none true),
    ("UTF32LE", .wide 4 (some false) false), ("UTF32BE", .wide 4 (some true) false),
    ("ISO-8859-1", .single 256), ("ISO8859-1", .single 256), ("LATIN1", .single 256),
    ("LATIN-1", .single 256), ("L1", .single 256), ("US-ASCII", .single 128),
    ("ASCII", .single 128)].lookup (String.ofList name)

/-- The bytes of the mark of the order. -/
def markBytes (width : Nat) (isBig : Bool) : List UInt8 :=
  Text.bytesOfUnits width isBig [Text.orderMark]

/-- The order that a mark at the start of some bytes says. -/
def orderSaid? (width : Nat) (bytes : List UInt8) : Option Bool :=
  [true, false].find? fun isBig => (markBytes width isBig).isPrefixOf bytes

/-- The text that bytes spell. -/
def decode? (spelling : Spelling) (bytes : List UInt8) : Option (List Char) :=
  match spelling with
  | .utf8 => (stringOf? bytes).map String.toList
  | .single limit =>
    if bytes.all (·.toNat < limit) then some (Text.octets bytes) else none
  | .wide width isBig hasMark => do
    let said := orderSaid? width bytes
    let isBig ← match hasMark, said, isBig with
      | true, some said, none => some said
      | true, some said, some isBig => if said = isBig then some isBig else none
      | true, none, _ => none
      | false, some _, _ => none
      | false, none, isBig => isBig
    let bytes := if hasMark then bytes.drop width else bytes
    let units ← Text.unitsOfBytes? width isBig (bytes.length + 1) bytes
    if width = 2 then Text.ofUnits? units else Text.ofNumbers? units

/-- The bytes that spell a text. -/
def encode? (spelling : Spelling) (s : List Char) : Option (List UInt8) :=
  match spelling with
  | .utf8 => some (Text.encode s)
  | .single limit => if s.all (·.toNat < limit) then some (Text.ofOctets s) else none
  | .wide width isBig hasMark =>
    let isBig := isBig.getD false
    let units := if width = 2 then s.flatMap Text.unitsOf else s.map Char.toNat
    some ((if hasMark then markBytes width isBig else []) ++ Text.bytesOfUnits width isBig units)

/-! ### The mark for the name -/

/-- What a mark for the name of the content starts with. -/
def identStart : List Char := "$Id".toList

/-- A text with what stands in the marks replaced. What `keeps` says about a mark stays as it is. -/
def withIdents (new : List Char) (keeps : List Char → Bool) : (fuel : Nat) → List Char → List Char
  | 0, s => s
  | fuel + 1, s =>
    match Text.splitFirst? identStart s with
    | none => s
    | some (before, '$' :: rest) => before ++ new ++ withIdents new keeps fuel rest
    | some (before, ':' :: rest) =>
      let inside := rest.takeWhile fun c => c ≠ '$' && c ≠ '\n'
      match rest.drop inside.length with
      | '$' :: rest =>
        before ++ (if keeps inside then identStart ++ ':' :: inside ++ ['$'] else new) ++
          withIdents new keeps fuel rest
      | rest => before ++ identStart ++ ':' :: inside ++ withIdents new keeps fuel rest
    | some (before, rest) => before ++ identStart ++ withIdents new keeps fuel rest

/-- Whether what stands in a mark was put there by something else: it is more than one word. -/
def isForeignIdent (inside : List Char) : Bool :=
  match inside with
  | ' ' :: s => (s.dropWhile (· ≠ ' ')).length > 1
  | _ => false

/-- A content with empty marks. -/
def withoutNames (content : List UInt8) : List UInt8 :=
  let s := Text.octets content
  Text.ofOctets (withIdents (identStart ++ ['$']) (fun _ => false) (s.length + 1) s)

/-- A content with its name in the marks. -/
def withName (name : ObjectName) (content : List UInt8) : List UInt8 :=
  let s := Text.octets content
  Text.ofOctets (withIdents (identStart ++ ": ".toList ++ name.toList ++ " $".toList)
    isForeignIdent (s.length + 1) s)

/-! ### Into the depot and out of it -/

/-- What a filter makes of a content, if that may go on. -/
def filtered? (f : Option ContentFilter) (line : ContentFilter → Option (List Char))
    (content : List UInt8) : Option (List UInt8) :=
  match f with
  | none => some content
  | some f =>
    match (line f).bind (Filter.run? · content) with
    | some content => some content
    | none => if f.isRequired then none else some content

/-- What the depot keeps of a file, if it can be kept; `kept` is what was kept before. -/
def toKept? (c : Conversion) (kept : Option (List UInt8)) (content : List UInt8) :
    Option (List UInt8) := do
  let content ← filtered? c.filter (·.clean) content
  let content ← match c.encoding with
    | some name =>
      if content.isEmpty then some content
      else ((spellingOf? name).bind (decode? · content)).map Text.encode
    | none => some content
  if c.isStrict && c.ending.changesEndings kept content then none
  else
    let content := c.ending.toKept kept content
    return if c.hasIdent then withoutNames content else content

/-- What the depot would keep of a file; one that it cannot keep stays as it is. -/
def toKept (c : Conversion) (kept : Option (List UInt8)) (content : List UInt8) : List UInt8 :=
  (({ c with isStrict := false } : Conversion).toKept? kept content).getD content

/-- What is written to the directory for what the depot keeps under a name. -/
def toWritten? (c : Conversion) (name : ObjectName) (kept : List UInt8) : Option (List UInt8) :=
  let content := if c.hasIdent then withName name kept else kept
  let content := c.ending.toWritten content
  let content := match c.encoding with
    | some encoding =>
      (((stringOf? content).map String.toList).bind fun s =>
        (spellingOf? encoding).bind (encode? · s)).getD content
    | none => content
  filtered? c.filter (·.smudge) content

end Conversion

end GameFixes.Depot
