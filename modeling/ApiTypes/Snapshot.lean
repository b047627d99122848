import ApiTypes.Artifact
import ApiTypes.Disk.Write
/-!
# Documents on a disk

A snapshot of the schema service is a directory with the section list, the error table and a file
for each section's schema.  Reading tells three things apart: there is no file, the file cannot be
read as text, the text is no document.
-/
namespace ApiTypes
namespace Disk

def readText (d : Disk) (path : Text) : Except Failure Text :=
  match d.entryAt (Path.ofText path) with
  | .error _ => .error (.fileNotFound path)
  | .ok .directory => .error (.unreadable path .isDirectory)
  | .ok (.file contents) =>
    match Text.ofUtf8 contents with
    | .ok t => .ok t
    | .error _ => .error (.unreadable path .notUtf8)
  | .ok _ => .ok []

def load (d : Disk) (path : Text) : Except Failure Json := do
  Document.parse (← d.readText path)

/-- The document at a place that may be a URL; those are out of reach. -/
def loadPlace (d : Disk) (place : Text) : Except Failure Json :=
  if Document.isUrl place then .error (.remoteDisabled place) else d.load place

def saveDocument (d : Disk) (path : Text) (document : Json) : Disk × Except Failure Unit :=
  d.writeText path document.renderIndented

end Disk

namespace Snapshot

def sectionsPath (root : Text) : Text := Path.join root "sections.json"

def errorsPath (root : Text) : Text := Path.join root "errors.json"

def schemaPath (root name : Text) : Text :=
  Path.join (Path.join root "schema") (name ++ ".json")

def source (d : Disk) (root : Text) : Source where
  sections := do Document.sectionList (← d.load (sectionsPath root))
  errors := do Document.errorTable (← d.load (errorsPath root))
  schema name := do Document.sectionSchema name (← d.load (schemaPath root name))
  origin := root ++ ['/']

end Snapshot
end ApiTypes
