import ApiTypes.Disk
import ApiTypes.Text.Octets
/-!
# Tools

A converter is a program that reads a document and writes declarations.  Programs are run here as
functions on strings of bytes: a tool gets its arguments and its input, and gives what it writes,
the input it leaves unread, and how it ends.  A tool has two outputs, one for results and one for
remarks, and what it writes is kept in order, since both may lead to the same place.
-/
namespace ApiTypes

inductive Output where
  | results
  | remarks
deriving DecidableEq

structure Finished where
  written : List (Output × Octets)
  unread : Octets
  status : ExitStatus
deriving DecidableEq

def Finished.text (f : Finished) (output : Output) : Octets :=
  (f.written.filter (fun w => w.1 = output)).flatMap (·.2)

/-- A tool: arguments, then input. -/
abbrev Tool := List Octets → Octets → Finished

namespace Tool

def success : ExitStatus := .code 0

def quiet (n : Nat) : Tool := fun _ input => ⟨[], input, .code n⟩

def remark (t : Octets) : List (Output × Octets) := [(.remarks, t ++ ['\n'])]

def complain (n : Nat) (words : Octets) (input : Octets) : Finished :=
  ⟨remark words, input, .code n⟩

/-- What a tool reads when it is given the name of a file.  A hyphen and the name of the input
stream stand for its input. -/
inductive Operand where
  | input
  | file (contents : Octets)
  | empty
  | absent (fault : FileFault)
deriving DecidableEq

def operand (d : Disk) (name : Octets) : Operand :=
  if name = ['-'] then .input
  else
    match d.entryAt (Path.ofText name.toText) with
    | .ok (.file contents) => .file (Octets.ofBytes contents)
    | .ok .directory => .absent .isDirectory
    | .ok (.stream 0) => .input
    | .ok _ => .empty
    | .error fault => .absent fault

/-- The bytes of an operand, and what is left of the input that was given. -/
def Operand.read (o : Operand) (given : Octets) : Except FileFault Octets × Octets :=
  match o with
  | .input => (.ok given, [])
  | .file contents => (.ok contents, given)
  | .empty => (.ok [], given)
  | .absent fault => (.error fault, given)

end Tool
end ApiTypes
