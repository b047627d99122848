import ApiTypes.CommandLine.Run
/-!
# The files of a run

A run works on a disk, and a disk need only hold what the run looks at.  That is said here: the
documents of a snapshot, the OpenAPI document and the files to be written, each with the directories
above it.  Which schemas a snapshot has is told by its section list, so the paths grow when that
list is on the disk.
-/
namespace ApiTypes

namespace Path

/-- A path and the paths above it; `before` are the characters before the rest, last first. -/
def cuts : (before : Text) → Text → List Text
  | before, [] => if before.isEmpty then [] else [before.reverse]
  | before, c :: rest =>
    if isSlash c ∧ !before.isEmpty then before.reverse :: cuts (c :: before) rest
    else cuts (c :: before) rest

/-- The path from one place to another that has the first names in common with it, or from the
root. -/
def between (home place : Place) : Text :=
  let shared := (List.zip home place).takeWhile (fun n => n.1 = n.2) |>.length
  if shared = 0 then '/' :: Text.join ['/'] place
  else Text.join ['/'] (List.replicate (home.length - shared) above ++ place.drop shared)

end Path

namespace Disk

def changesFrom (d before : Disk) : List (Place × Entry) :=
  d.entries.filter (fun e => before.entry? e.1 ≠ some e.2)

end Disk

namespace CommandLine

/-- The documents of a snapshot, as far as its section list is on the disk. -/
def snapshotPaths (d : Disk) (root : Text) : List Text :=
  let names := ((Snapshot.source d root).sections.toOption).getD []
  [Snapshot.sectionsPath root, Snapshot.errorsPath root] ++ names.map (Snapshot.schemaPath root)

def Command.paths (d : Disk) (c : Command) : List Text :=
  let read := (c.source.fromDir.map (snapshotPaths d)).getD []
  let others := match c with
    | .v1 _ output _ => output.toList
    | .generate _ openapi converter output _ =>
      match converter with
      | none => [output]
      | some o => (if Document.isUrl openapi then [] else [openapi]) ++ o.save.toList ++ [output]
  (read ++ others).flatMap (Path.cuts [])

def paths (d : Disk) (args : List Text) : List Text :=
  match parse args with
  | .ok (.run c) => c.paths d
  | _ => []

end CommandLine
end ApiTypes
