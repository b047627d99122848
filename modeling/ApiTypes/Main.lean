import ApiTypes.CommandLine.Files
/-!
# The program

Everything is decided by `CommandLine.run`.  This module only brings the files of a run onto a disk,
and brings the changes back.
-/
namespace ApiTypes
namespace Program

/-- The place of the working directory: names that no path can spell, so that only relative paths
lead there, and as many of them as paths are likely to climb. -/
def home : Place := List.replicate 64 ['\x00']

def readEntry (path : String) : IO (Option Entry) := do
  try
    let contents ← IO.FS.readBinFile path
    return some (.file contents.toList)
  catch
    | .inappropriateType _ _ _ => return some .directory
    | _ => return none

def gather (d : Disk) (paths : List Text) : IO Disk :=
  paths.foldlM (fun d path => do
    match ← readEntry (String.ofList path) with
    | some entry => return d.layAt path entry
    | none => return d) d

/-- Brings one change back; a file is moved to its place when it is complete. -/
def store (place : Place) (entry : Entry) : IO Unit := do
  let path := String.ofList (Path.between home place)
  match entry with
  | .directory => IO.FS.createDirAll path
  | .file contents =>
    let beside := path ++ ".new"
    IO.FS.writeBinFile beside (ByteArray.mk contents.toArray)
    IO.FS.rename beside path
  | _ => return

def perform (args : List Text) : IO UInt32 := do
  let bare := ApiTypes.Program.disk home
  let known ← gather bare (CommandLine.paths bare args)
  let disk ← gather known (CommandLine.paths known args)
  let outcome := CommandLine.run Conversion.run disk args
  let (output, remarks) := (← IO.getStdout, ← IO.getStderr)
  for event in outcome.events do
    remarks.putStrLn (String.ofList event.text)
  for (place, entry) in outcome.disk.changesFrom disk do
    store place entry
  output.putStr (String.ofList outcome.output)
  remarks.putStr (String.ofList outcome.complaint)
  return outcome.exitCode.toUInt32

end Program
end ApiTypes

def main (args : List String) : IO UInt32 := ApiTypes.Program.perform (args.map String.toList)
