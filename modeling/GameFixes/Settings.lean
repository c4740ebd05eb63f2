import GameFixes.Association
import GameFixes.Environment
import GameFixes.Toml.Reader

/-!
# Settings

Where fixes and catalogs come from, and how fix groups and identifiers are named. Settings are read
from a file; some of them can be overridden by variables, and all have a default.
-/

namespace GameFixes

/-- The settings about where things come from. -/
structure SourceSettings where
  repositoryUrl : Option String := none
  apiUrl : Option String := none
  userAgent : Option String := none
  deriving DecidableEq, Repr

/-- The settings about how fixes are named. -/
structure FixSettings where
  idPrefix : Option String := none
  groupPrefix : Option String := none
  libraryGroup : Option String := none
  libraryProvider : Option String := none
  deriving DecidableEq, Repr

/-- The settings as they were read. -/
structure Settings where
  sources : SourceSettings := {}
  fixes : FixSettings := {}
  deriving DecidableEq, Repr

namespace Settings

/-! ### Defaults -/

def defaultRepositoryUrl : String :=
  "https://github.com/Open-Wine-Components/ULWGL-protonfixes"

def defaultApiUrl : String := "https://ulwgl.openwinecomponents.org/ulwgl_api.php"

def defaultUserAgent : String := "fixtool/0.1"

def defaultGroupPrefix : String := "gamefixes-"

def defaultLibraryGroup : String := "gamefixes-steam"

/-- A field of the default settings file, which sets a text to its default. -/
def defaultLine (name value : String) : String := name ++ " = \"" ++ value ++ "\"\n"

/-- The settings file that a new layout gets. It says what the defaults are. -/
def defaultText : String :=
  "# fixtool configuration (materialized by `fixtool init`)\n\n[sources]\n" ++
    "# " ++ defaultLine "repository_url" defaultRepositoryUrl ++
    "# " ++ defaultLine "api_url" defaultApiUrl ++
    "# " ++ defaultLine "user_agent" defaultUserAgent ++
    "\n[fixes]\n" ++
    defaultLine "id_prefix" defaultIdPrefix ++
    defaultLine "group_prefix" defaultGroupPrefix ++
    defaultLine "library_group" defaultLibraryGroup ++
    defaultLine "library_provider" defaultLibraryProvider

/-! ### Reading -/

/-- The text of an item. -/
def textOf? : Toml.Item → Option String
  | .string s => some s
  | _ => none

/-- The texts of a section's fields: from a table, in which a field may be missing, or from an array
that has them all in order. A moment is a section without fields. -/
def section? (names : List String) : Option Toml.Item → Option (List (Option String))
  | none => some (names.map fun _ => none)
  | some (.table _ fields) => names.mapM fun name =>
    match Toml.Fields.get? fields name with
    | none => some none
    | some item => (textOf? item).map some
  | some (.array items) =>
    if names.length ≤ items.length then
      (items.take names.length).mapM fun item => (textOf? item).map some
    else none
  | some .moment => some (names.map fun _ => none)
  | some _ => none

/-- The settings that the outermost table of a settings file says. -/
def ofFields? (fields : Toml.Fields) : Option Settings := do
  let sources ← section? ["repository_url", "api_url", "user_agent"] (fields.get? "sources")
  let fixes ← section? ["id_prefix", "group_prefix", "library_group", "library_provider"]
    (fields.get? "fixes")
  match sources, fixes with
  | [repositoryUrl, apiUrl, userAgent], [idPrefix, groupPrefix, libraryGroup, libraryProvider] =>
    return ⟨⟨repositoryUrl, apiUrl, userAgent⟩,
      ⟨idPrefix, groupPrefix, libraryGroup, libraryProvider⟩⟩
  | _, _ => none

/-- The settings of a settings file. -/
def parse? (content : String) : Option Settings := (Toml.read? content).bind ofFields?

/-! ### Values in effect -/

/-- Where the checkout comes from: a variable wins over the settings. -/
def repositoryUrl (s : Settings) (env : Environment) : String :=
  ((env.nonBlank? "FIXTOOL_REPOSITORY_URL") <|> s.sources.repositoryUrl).getD defaultRepositoryUrl

/-- Where the catalog comes from: a variable wins over the settings. -/
def apiUrl (s : Settings) (env : Environment) : String :=
  ((env.nonBlank? "FIXTOOL_API_URL") <|> s.sources.apiUrl).getD defaultApiUrl

/-- The name under which the catalog is asked for: a variable wins over the settings. -/
def userAgent (s : Settings) (env : Environment) : String :=
  ((env.nonBlank? "FIXTOOL_USER_AGENT") <|> s.sources.userAgent).getD defaultUserAgent

/-- The prefix of identifiers. -/
def idPrefix (s : Settings) : String := s.fixes.idPrefix.getD defaultIdPrefix

/-- The prefix of the names of fix groups. -/
def groupPrefix (s : Settings) : String := s.fixes.groupPrefix.getD defaultGroupPrefix

/-- The fix group of the library's provider. -/
def libraryGroup (s : Settings) : String := s.fixes.libraryGroup.getD defaultLibraryGroup

/-- The library's own provider. -/
def libraryProvider (s : Settings) : String :=
  s.fixes.libraryProvider.getD defaultLibraryProvider

/-- The options of a reconciliation. -/
def options (s : Settings) : Options := ⟨s.idPrefix, s.libraryProvider⟩

end Settings

end GameFixes
