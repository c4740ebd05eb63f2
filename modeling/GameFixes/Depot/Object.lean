import GameFixes.Digest
import GameFixes.Text.Utf8
import GameFixes.Tree.Node

/-!
# Objects

What a depot keeps for good: contents of files, trees that give names to contents, commits that say
which tree came after which commits, and tags. An object is known by the digest of what it says, so
that equal objects have equal names.
-/

namespace GameFixes.Depot

/-! ### Names -/

/-- The name of an object: the digits of its digest. -/
abbrev ObjectName := String

/-- The digest by which a depot names its objects. -/
inductive Naming
  | short
  | long
  deriving DecidableEq, Repr

namespace Naming

/-- How many digits names have. -/
def length : Naming → Nat
  | .short => 40
  | .long => 64

/-- The name of what some bytes say. -/
def name (n : Naming) (bytes : List UInt8) : ObjectName :=
  match n with
  | .short => Digest.hex (Digest.short bytes)
  | .long => Digest.hex (Digest.long bytes)

/-- The name that no object has. -/
def zero (n : Naming) : ObjectName := String.ofList (List.replicate n.length '0')

/-- Whether a text is the name of an object. -/
def isName (n : Naming) (s : List Char) : Bool :=
  s.length = n.length && s.all fun c => c.isDigit || ('a' ≤ c && c ≤ 'f')

end Naming

/-! ### Kinds of objects -/

/-- What kind of thing a tree has under a name. -/
inductive Kind
  | file
  /-- A file that may be run. -/
  | program
  | link
  | directory
  /-- A depot of its own, by the name of a commit in it. -/
  | nested
  deriving DecidableEq, Repr

namespace Kind

/-- The number that says a kind, in octal digits. -/
def digits : Kind → String
  | .file => "100644"
  | .program => "100755"
  | .link => "120000"
  | .directory => "40000"
  | .nested => "160000"

/-- Whether this is the kind of a directory in the tree of files. -/
def isDir : Kind → Bool
  | .directory | .nested => true
  | .file | .program | .link => false

end Kind

/-- What is under a name: an object of some kind. -/
structure Item where
  kind : Kind
  name : ObjectName
  deriving DecidableEq, Repr

/-- Who did something, and when. -/
structure Signature where
  name : String
  email : String
  /-- The seconds and the zone. -/
  time : String
  deriving DecidableEq, Repr

/-- How a signature is written. -/
def Signature.text (s : Signature) : String := s.name ++ " <" ++ s.email ++ "> " ++ s.time

/-- A commit: a tree, and the commits that it comes after. -/
structure Commit where
  tree : ObjectName
  parents : List ObjectName
  author : Signature
  committer : Signature
  message : String
  deriving DecidableEq, Repr

/-- A tag: a name for an object, with a message. -/
structure Tag where
  target : ObjectName
  /-- What kind of object is tagged, in a word. -/
  targetWord : String
  name : String
  tagger : Signature
  message : String
  deriving DecidableEq, Repr

/-- An object. -/
inductive Object
  | blob (content : List UInt8)
  | tree (items : List (FileName × Item))
  | commit (c : Commit)
  | tag (t : Tag)
  deriving DecidableEq, Repr

namespace Object

/-- The word for the kind of an object. -/
def word : Object → String
  | .blob _ => "blob"
  | .tree _ => "tree"
  | .commit _ => "commit"
  | .tag _ => "tag"

/-- The value of a hexadecimal digit. -/
def digitValue (c : Char) : Nat := if c.isDigit then c.toNat - 48 else c.toLower.toNat - 87

/-- The bytes that hexadecimal digits spell. -/
def bytesOfHex : List Char → List UInt8
  | a :: b :: s => (digitValue a * 16 + digitValue b).toUInt8 :: bytesOfHex s
  | _ => []

/-- An item of a tree as bytes. -/
def itemBytes (e : FileName × Item) : List UInt8 :=
  bytesOf e.2.kind.digits ++ 0x20 :: e.1 ++ 0 :: bytesOfHex e.2.name.toList

/-- What an object says. -/
def body : Object → List UInt8
  | .blob content => content
  | .tree items => items.flatMap itemBytes
  | .commit c =>
    bytesOf ("tree " ++ c.tree ++ "\n" ++
      String.join (c.parents.map fun p => "parent " ++ p ++ "\n") ++
      "author " ++ c.author.text ++ "\ncommitter " ++ c.committer.text ++ "\n\n" ++ c.message)
  | .tag t =>
    bytesOf ("object " ++ t.target ++ "\ntype " ++ t.targetWord ++ "\ntag " ++ t.name ++
      "\ntagger " ++ t.tagger.text ++ "\n\n" ++ t.message)

/-- The name of an object. -/
def nameBy (n : Naming) (o : Object) : ObjectName :=
  let body := o.body
  n.name (bytesOf (o.word ++ " " ++ toString body.length) ++ 0 :: body)

end Object

end GameFixes.Depot
