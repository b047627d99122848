import ApiTypes.Disk
/-!
# Writing a file whole

A file is written beside its place and then moved there, so a reader finds either what was there
before or all of the new contents.  On the disk of this library the move is the only step that
shows: the file appears whole, or the disk keeps every file it had.  Directories that were missing
stay, also if the move fails.
-/
namespace ApiTypes
namespace Disk

/-- A way to write a text where a path leads to.  Gives the disk as it is left and what went wrong. -/
abbrev Writer := Disk → (path text : Text) → Disk × Except Failure Unit

/-- A directory made in another one, unless there is one of the name.  Gives its place, too. -/
def ensureIn (d : Disk) (parent : Place) (name : Text) : Except FileFault (Disk × Place) := do
  let place ← match d.step parent name with
    | .error .notFound => return (d.put (parent ++ [name]) .directory, parent ++ [name])
    | result => result
  match d.entry? place with
  | some .directory => return (d, place)
  | _ => throw .exists

def ensureDirectory (d : Disk) (p : Path) : Except FileFault (Disk × Place) := do
  checkPath p
  let parent ← d.walk (d.start p) p.names.dropLast
  d.checkDirectory parent
  d.ensureIn parent p.lastName

/-- Makes the directories that are missing among those that paths lead to; each path leads on from
the one behind it in the list.  The first one is tried first, and only where that fails because one
on the way is missing, that one is made.  Gives the disk as it is left, and the first directory or
what went wrong. -/
def ensureDirectories : List Path → Disk → Disk × Except FileFault Place
  | [], d => (d, .ok d.home)
  | p :: above, d =>
    match d.ensureDirectory p with
    | .ok (d, place) => (d, .ok place)
    | .error .notFound =>
      match ensureDirectories above d with
      | (d, .error fault) => (d, .error fault)
      | (d, .ok parent) =>
        match d.ensureIn parent p.lastName with
        | .ok (d, place) => (d, .ok place)
        | .error fault => (d, .error fault)
    | .error fault => (d, .error fault)

def moveFile (d : Disk) (p : Path) (contents : Bytes) : Except FileFault Disk := do
  if holdsNul p then throw .invalid
  checkPath p
  match p.names.getLast? with
  | none => throw (if p.absolute then .busy else .notFound)
  | some last =>
    let parent ← d.walk (d.start p) p.names.dropLast
    d.checkDirectory parent
    if last = Path.here ∨ last = Path.above then throw .busy
    checkName last
    if p.endsInSlash then throw .notDirectory
    match d.entry? (parent ++ [last]) with
    | some .directory => throw .isDirectory
    | _ => return d.put (parent ++ [last]) (.file contents)

def writeFile (d : Disk) (path : Text) (contents : Bytes) : Disk × Except FileFault Unit :=
  match ensureDirectories (Path.parents path) d with
  | (d, .error fault) => (d, .error fault)
  | (d, .ok _) =>
    match d.moveFile (Path.ofText path) contents with
    | .ok d => (d, .ok ())
    | .error fault => (d, .error fault)

/-- Writes a text where a path leads to, on a disk that refuses nothing. -/
def writeText (d : Disk) (path text : Text) : Disk × Except Failure Unit :=
  let (d, result) := d.writeFile path text.utf8
  (d, result.mapError (.unwritable path))

end Disk
end ApiTypes
