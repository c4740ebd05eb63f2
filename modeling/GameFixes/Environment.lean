import GameFixes.Collection.TextMap
import GameFixes.Text.Blank

/-!
# Environments

The variables of a process. Where a variable is to say something, blanks say nothing.
-/

namespace GameFixes

/-- The variables of a process. -/
abbrev Environment := TextMap String

/-- The value of a variable without the blanks around it, unless that is nothing. -/
def Environment.nonBlank? (env : Environment) (name : String) : Option String :=
  ((env.get? name).map trimmed).filter (· ≠ "")

end GameFixes
