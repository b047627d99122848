import ApiTypes.Declaration
import ApiTypes.Document
import ApiTypes.ErrorEnum
/-!
# The artifact of a schema service

A source answers for the section list, the error table and the schema of each section.  The artifact
is a header, the sections under their banners in the order of the list, and the enumeration of error
codes.  The first failure ends the run: that of the section list before that of the error table, and
these before those of the sections in their order.
-/
namespace ApiTypes

/-- Where schema documents come from: the answer to each question, and the words for it. -/
structure Source where
  sections : Except Failure (List Text)
  errors : Except Failure (List ErrorEntry)
  schema : Text → Except Failure (List Selection)
  origin : Text

namespace Artifact

def sectionBlock (name text : Text) : Text :=
  "// ===== " ++ name.upper ++ " SECTION =====\n\n" ++ text

/-- The parts of the artifact, each on lines of its own.  Names and texts go together in pairs; what
one list has more than the other is left out. -/
def assemble (origin : Text) (names texts : List Text) (errors : Text) : Text :=
  let header : List Text :=
    ["// Auto-generated TypeScript types for Torn API V1", "// Generated from: " ++ origin, ""]
  let footer : List Text := ["", "// ===== ERROR CODES =====", "", errors]
  Text.joinLines (header ++ List.zipWith sectionBlock names texts ++ footer)

def sectionOf (source : Source) (name : Text) : Except Failure (Reported Text) := do
  let selections ← source.schema name
  return sectionText name selections

def index (source : Source) : Except Failure (List Text × List ErrorEntry) := do
  let names ← source.sections
  let errors ← source.errors
  return (names, errors)

def generate (source : Source) : Except Failure (Reported Text) := do
  let (names, errors) ← index source
  let sections ← names.mapM (sectionOf source)
  return ⟨assemble source.origin names (sections.map Reported.value) (ErrorEnum.render errors),
    sections.flatMap Reported.diagnostics⟩

end Artifact
end ApiTypes
