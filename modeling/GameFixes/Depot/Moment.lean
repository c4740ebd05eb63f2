import GameFixes.Depot.Glob
import GameFixes.Text.Find

/-!
# Moments

How people say when something was done. When exactly it was does not matter to a depot, only whether
it was said at all: by seconds, by a date, or by words about the time since then.
-/

namespace GameFixes.Depot.Moment

/-- The runs of digits in a text. -/
def numbers (s : List Char) : List (List Char) :=
  (s.splitBy fun a b => a.isDigit == b.isDigit).filter (·.all Char.isDigit)

/-- The runs of letters in a text, in small letters. -/
def wordsOf (s : List Char) : List (List Char) :=
  ((s.splitBy fun a b => a.isAlpha == b.isAlpha).filter (·.all Char.isAlpha)).map
    (·.map Char.toLower)

/-- The names of months. -/
def monthNames : List String :=
  ["january", "february", "march", "april", "may", "june", "july", "august", "september",
    "october", "november", "december"]

/-- Other words that say a moment roughly. -/
def otherNames : List String :=
  ["sunday", "monday", "tuesday", "wednesday", "thursday", "friday", "saturday", "yesterday",
    "noon", "midnight", "tea", "now", "one", "two", "three", "four", "five", "six", "seven",
    "eight", "nine", "ten", "last", "seconds", "minutes", "hours", "days", "weeks", "months",
    "years"]

/-- Whether a word is a name, or at least three letters of its start. -/
def isNameOf (names : List String) (word : List Char) : Bool :=
  names.any fun name =>
    3 ≤ word.length && (Text.after? word name.toList).isSome

/-- Whether a text says seconds since a fixed moment. -/
def saysSeconds (s : List Char) : Bool :=
  (numbers s).any (9 ≤ ·.length) ||
    (match s with
      | '@' :: s =>
        let rest := s.dropWhile Char.isDigit
        s.head?.any Char.isDigit && (rest.head? = some ' ') && (rest.drop 1).head?.any fun c =>
          c = '+' || c = '-'
      | _ => false)

/-- Whether a text says a day: three numbers with signs between them, or a month and a number. -/
def saysDay (s : List Char) : Bool :=
  let groups := (s.splitBy fun a b => !Glob.isSpace a && !Glob.isSpace b && a ≠ 'T' && b ≠ 'T')
  groups.any (fun group =>
    3 ≤ (numbers group).length && group.any fun c => c = '-' || c = '/' || c = '.') ||
    ((wordsOf s).any (isNameOf monthNames) && !(numbers s).isEmpty)

/-- Whether a text says a moment exactly. -/
def isExact (s : List Char) : Bool := saysSeconds s || saysDay s

/-- Whether a text says a moment, perhaps by words about the time since then. -/
def isRough (s : List Char) : Bool :=
  isExact s || !(numbers s).isEmpty || (wordsOf s).any (isNameOf (monthNames ++ otherNames))

end GameFixes.Depot.Moment
