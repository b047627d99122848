import ApiTypes.OpenApi
import ApiTypes.Script.Run
import ApiTypes.Text.Blank
/-!
# Converters that are programs

A converter given by name gets the document in its compact form as input, and its output is the
result.  It has to be there, to end well, and to write text.  What it does to the files is kept,
whether it ends well or not.
-/
namespace ApiTypes
namespace Conversion

/-- The greatest length of an argument, in bytes. -/
def argumentLimit : Nat := 131071

def start (d : Disk) (name : Text) (args : List Text) : Except FileFault Program := do
  if (name :: args).any (fun a => a.contains '\x00') then
    throw (.described "nul byte found in provided data")
  let program ← Program.find d name
  if (name :: args).any (fun a => argumentLimit < Text.byteLength a) then
    throw .tooManyArguments
  return program

def runProgram (d : Disk) (program : Program) (name : Octets) (args : List Octets)
    (input : Octets) : Disk × Finished :=
  match program.tool d name with
  | some tool => (d, tool args input)
  | none =>
    let (finished, d) := Script.runShell d name args input
    (d, finished)

def ofFinished (name : Text) (f : Finished) : Except ConversionFault Text :=
  if f.status = Tool.success then
    (Text.ofUtf8 (f.text .results).toBytes).mapError (.notUtf8 name)
  else .error (.ended name f.status (f.text .remarks).toText.trim)

/-- Runs a program with arguments on a document.  Gives the disk as it is left, and what the program
has made of the document. -/
def run (d : Disk) (name : Text) (args : List Text) (document : Json) :
    Disk × Except ConversionFault Text :=
  match start d name args with
  | .error fault => (d, .error (.cannotStart name fault))
  | .ok program =>
    let input := Octets.ofText document.render
    let (d, f) := runProgram d program (Octets.ofText name) (args.map Octets.ofText) input
    (d, ofFinished name f)

def ofProgram (d : Disk) (name : Text) (args : List Text) : Converter := fun document =>
  (run d name args document).2

end Conversion
end ApiTypes
