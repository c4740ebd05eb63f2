import GameFixes.Depot.Attribute

/-!
# Line endings

Attributes of a path may ask for its lines to end in one way in the depot and in another way in its
directory. In the depot lines end with a line feed. A path about which only is known that it may be
a text is left as it is if it does not look like one.
-/

namespace GameFixes.Depot

/-- What is done to the line endings of a path. -/
inductive LineEnding
  /-- Nothing. -/
  | untouched
  /-- It is a text, with line feeds in the directory. -/
  | text
  /-- It is a text, with carriage returns in front of them in the directory. -/
  | textReturns
  /-- It is a text if it looks like one, with line feeds in the directory. -/
  | auto
  /-- It is a text if it looks like one, with carriage returns in the directory. -/
  | autoReturns
  deriving DecidableEq, Repr

namespace LineEnding

open Attribute (Setting)

/-! ### Attributes -/

/-- What is done to paths about which attributes say nothing. -/
inductive Habit
  | nothing
  /-- They are texts if they look like texts. -/
  | feeds
  /-- They are texts if they look like texts, with carriage returns in the directory. -/
  | returns
  deriving DecidableEq, Repr

/-- What the settings of a depot say about line endings. -/
structure Habits where
  habit : Habit := .nothing
  /-- Whether texts have carriage returns in the directory, unless the habit says something. -/
  prefersReturns : Bool := false
  deriving DecidableEq, Repr

/-- Whether texts have carriage returns in the directory if nothing else is said. -/
def Habits.hasReturns (h : Habits) : Bool :=
  h.habit = .returns || (h.habit ≠ .feeds && h.prefersReturns)

/-- What attributes claim about a path. -/
inductive Claim
  | binary
  | text
  | textWithFeeds
  | perhaps
  deriving DecidableEq, Repr

/-- What an attribute that says whether a path is a text claims. -/
def claimOf? : Option Setting → Option Claim
  | some .on => some .text
  | some .off => some .binary
  | some (.text value) =>
    if value = "input".toList then some .textWithFeeds
    else if value = "auto".toList then some .perhaps
    else none
  | _ => none

/-- What is done to the line endings of a path with some attributes. -/
def ofSettings (h : Habits) (settings : Attribute.Settings) : LineEnding :=
  let claim := (claimOf? (settings.lookup "text".toList)).or
    (claimOf? (settings.lookup "crlf".toList))
  let isEnding (value : String) : Bool :=
    settings.lookup "eol".toList = some (.text value.toList)
  match claim with
  | some .binary => .untouched
  | some .perhaps =>
    if isEnding "lf" then .auto
    else if isEnding "crlf" || h.hasReturns then .autoReturns
    else .auto
  | claim =>
    if isEnding "lf" then .text
    else if isEnding "crlf" then .textReturns
    else
      match claim, h.habit with
      | some .text, _ => if h.hasReturns then .textReturns else .text
      | some _, _ => .text
      | none, .nothing => .untouched
      | none, .feeds => .auto
      | none, .returns => .autoReturns

/-- Whether a path is only a text if it looks like one. -/
def isGuess : LineEnding → Bool
  | .auto | .autoReturns => true
  | .untouched | .text | .textReturns => false

/-- Whether lines end with carriage returns and line feeds in the directory. -/
def hasReturns : LineEnding → Bool
  | .textReturns | .autoReturns => true
  | .untouched | .text | .auto => false

/-! ### Texts -/

def lineFeed : UInt8 := 0x0A
def carriageReturn : UInt8 := 0x0D

/-- How many characters of some kinds there are in a file. -/
structure Census where
  /-- Line feeds behind carriage returns. -/
  pairs : Nat := 0
  /-- Other carriage returns. -/
  returns : Nat := 0
  /-- Other line feeds. -/
  feeds : Nat := 0
  zeros : Nat := 0
  printable : Nat := 0
  unprintable : Nat := 0
  deriving DecidableEq, Repr

/-- The control characters that are in texts too. -/
def isTextControl (b : UInt8) : Bool := b ∈ [0x08, 0x09, 0x0C, 0x1B]

/-- Counts a byte that does not end a line. -/
def Census.add (c : Census) (b : UInt8) : Census :=
  if b = 0x7F then { c with unprintable := c.unprintable + 1 }
  else if b < 0x20 && !isTextControl b then
    { c with unprintable := c.unprintable + 1, zeros := c.zeros + if b = 0 then 1 else 0 }
  else { c with printable := c.printable + 1 }

/-- Counts the bytes of a file. -/
def census (c : Census) : List UInt8 → Census
  | [] => c
  | [b] =>
    if b = carriageReturn then { c with returns := c.returns + 1 }
    else if b = lineFeed then { c with feeds := c.feeds + 1 }
    else if b = 0x1A then c
    else c.add b
  | a :: b :: bytes =>
    if a = carriageReturn then
      if b = lineFeed then census { c with pairs := c.pairs + 1 } bytes
      else census { c with returns := c.returns + 1 } (b :: bytes)
    else if a = lineFeed then census { c with feeds := c.feeds + 1 } (b :: bytes)
    else census (c.add a) (b :: bytes)

/-- Whether a file does not look like a text: it has lone carriage returns or zeros, or more than
one unprintable character on 128 others. -/
def Census.isBinary (c : Census) : Bool :=
  0 < c.returns || 0 < c.zeros || c.printable / 128 < c.unprintable

/-! ### Conversion -/

/-- Takes the carriage returns in front of line feeds away. -/
def withoutReturns : List UInt8 → List UInt8
  | [] => []
  | [b] => [b]
  | a :: b :: bytes =>
    if a = carriageReturn && b = lineFeed then withoutReturns (b :: bytes)
    else a :: withoutReturns (b :: bytes)

/-- Puts a carriage return in front of each line feed that has none. -/
def withReturns : List UInt8 → List UInt8
  | [] => []
  | a :: bytes =>
    if a = lineFeed then carriageReturn :: lineFeed :: withReturns bytes
    else
      match bytes with
      | [] => [a]
      | b :: bytes =>
        if a = carriageReturn && b = lineFeed then a :: b :: withReturns bytes
        else a :: withReturns (b :: bytes)

/-- Whether a file looks like a text some of whose lines end with carriage returns. -/
def hasPairs (content : List UInt8) : Bool :=
  let c := census {} content
  0 < c.pairs && !c.isBinary

/-- What the depot keeps of a file; `kept` is what it kept before. A text that was kept with
carriage returns goes on being kept with them, unless it is known to be a text. -/
def toKept (e : LineEnding) (kept : Option (List UInt8)) (content : List UInt8) : List UInt8 :=
  let c := census {} content
  if e = .untouched || c.pairs = 0 then content
  else if e.isGuess && (c.isBinary || kept.any hasPairs) then content
  else withoutReturns content

/-- What is written to the directory for what the depot keeps. -/
def toWritten (e : LineEnding) (kept : List UInt8) : List UInt8 :=
  let c := census {} kept
  if !e.hasReturns || c.feeds = 0 then kept
  else if e.isGuess && (0 < c.returns || 0 < c.pairs || c.isBinary) then kept
  else withReturns kept

/-- Whether what is kept of a file and then written again would end some lines in another way; `kept`
is what was kept before. -/
def changesEndings (e : LineEnding) (kept : Option (List UInt8)) (content : List UInt8) : Bool :=
  let old := census {} content
  let new := census {} (e.toWritten (e.toKept kept content))
  let isOpen := e ≠ .untouched && !(e.isGuess && old.isBinary)
  isOpen && ((0 < old.pairs && new.pairs = 0) || (0 < old.feeds && new.feeds = 0))

end LineEnding

end GameFixes.Depot
