import GameFixes.Text.Find

/-!
# Fix identifiers

Fix files and catalog entries name a game by an identifier that may carry a prefix. Everything is
compared by the plain identifier, without it.
-/

namespace GameFixes

/-- The identifier prefix used when settings give none. -/
def defaultIdPrefix : String := "ulwgl-"

/-- An identifier without the prefix; one that lacks it is already plain. -/
def plainId (idPrefix id : String) : String :=
  String.ofList (Text.withoutStart idPrefix.toList id.toList)

end GameFixes
