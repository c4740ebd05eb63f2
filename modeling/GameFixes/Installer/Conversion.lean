import GameFixes.Installer.Compile
import GameFixes.Json.Writer
import GameFixes.Checkout.Listing
import GameFixes.Yaml.Writer

/-!
# Conversion

The fixes of a group become installer documents, written in one of two formats. A fix that changes
nothing has no document. A fix that cannot be compiled ends the conversion, unless it is to keep
going; what comes before it is converted either way.
-/

namespace GameFixes.Installer

/-- How documents are written. -/
inductive Format
  | yaml
  | json
  deriving DecidableEq, Repr

/-- The extension of files in a format. -/
def Format.extension : Format → String
  | .yaml => "yml"
  | .json => "json"

/-- A document in a format. -/
def Format.render (format : Format) (d : Document) : String :=
  match format with
  | .yaml => Yaml.render d.outline
  | .json => Json.render d.outline

/-- The written document of a fix. -/
structure Rendering where
  id : String
  text : String
  deriving DecidableEq, Repr

/-- The name of the file for a written document. -/
def Rendering.fileName (r : Rendering) (format : Format) : String :=
  r.id ++ "." ++ format.extension

/-- The written document of a fix, unless it is empty. -/
def renderingOf? (format : Format) (id : String) (d : Document) : Option Rendering :=
  if d.isEmpty then none else some ⟨id, format.render d⟩

/-- The written documents of fixes, and the error that ends the conversion early. -/
def convert (format : Format) (keepGoing : Bool) :
    List Checkout.FixScript → List Rendering × Option CompileError
  | [] => ([], none)
  | script :: scripts =>
    match compile script.id script.operations with
    | .ok d =>
      let (renderings, error) := convert format keepGoing scripts
      ((renderingOf? format script.id d).toList ++ renderings, error)
    | .error e => if keepGoing then convert format keepGoing scripts else ([], some e)

end GameFixes.Installer
