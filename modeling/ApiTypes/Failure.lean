import ApiTypes.Json.Syntax
import ApiTypes.Schema.Record
import ApiTypes.Text.Utf8
/-!
# What ends a run

A failure is a cause, with what is needed to tell it.  Its words (`Failure.message`) and its exit
code (`Failure.exitCode`) are functions of the cause: 3 where something cannot be reached, 2 where
data are wrong, 1 where warnings are to fail the run.
-/
namespace ApiTypes

inductive FileFault where
  | notFound
  | tooManyArguments
  | denied
  | busy
  | exists
  | notDirectory
  | isDirectory
  | invalid
  | nameTooLong
  | nulInName
  /-- The file is there, but no text. -/
  | notUtf8
  /-- Any other reason, in the words of the system. -/
  | described (words : Text)
deriving DecidableEq

namespace FileFault

def words : FileFault → Text
  | .notFound => "No such file or directory"
  | .tooManyArguments => "Argument list too long"
  | .denied => "Permission denied"
  | .busy => "Device or resource busy"
  | .exists => "File exists"
  | .notDirectory => "Not a directory"
  | .isDirectory => "Is a directory"
  | .invalid => "Invalid argument"
  | .nameTooLong => "File name too long"
  | .nulInName => "file name contained an unexpected NUL byte"
  | .notUtf8 => "stream did not contain valid UTF-8"
  | .described words => words

/-- The number that the system gives the reason, if it is one of the system's own. -/
def number? : FileFault → Option Nat
  | .notFound => some 2
  | .tooManyArguments => some 7
  | .denied => some 13
  | .busy => some 16
  | .exists => some 17
  | .notDirectory => some 20
  | .isDirectory => some 21
  | .invalid => some 22
  | .nameTooLong => some 36
  | .nulInName => none
  | .notUtf8 => none
  | .described _ => none

def message (fault : FileFault) : Text :=
  match fault.number? with
  | some n => fault.words ++ " (os error " ++ Text.ofNat n ++ ")"
  | none => fault.words

end FileFault

structure Signal where
  number : Nat
deriving DecidableEq

namespace Signal

/-- The names of the signals, without the letters that all names begin with. -/
def names : List (Nat × Text) :=
  [(1, "HUP"), (2, "INT"), (3, "QUIT"), (4, "ILL"), (5, "TRAP"), (6, "ABRT"), (7, "BUS"),
    (8, "FPE"), (9, "KILL"), (10, "USR1"), (11, "SEGV"), (12, "USR2"), (13, "PIPE"), (14, "ALRM"),
    (15, "TERM"), (16, "STKFLT"), (17, "CHLD"), (18, "CONT"), (19, "STOP"), (20, "TSTP"),
    (21, "TTIN"), (22, "TTOU"), (23, "URG"), (24, "XCPU"), (25, "XFSZ"), (26, "VTALRM"),
    (27, "PROF"), (28, "WINCH"), (29, "IO"), (30, "PWR"), (31, "SYS")]

def name? (s : Signal) : Option Text := (names.find? (fun n => n.1 = s.number)).map (·.2)

def kill : Signal := ⟨9⟩

def term : Signal := ⟨15⟩

def greatest : Nat := 64

end Signal

inductive ExitStatus where
  | code (n : Nat)
  | signal (s : Signal)
deriving DecidableEq

def ExitStatus.message : ExitStatus → Text
  | .code n => "exit status: " ++ Text.ofNat n
  | .signal s =>
    let number := "signal: " ++ Text.ofNat s.number
    match s.name? with
    | some name => number ++ " (SIG" ++ name ++ ")"
    | none => number

inductive ConversionFault where
  | cannotStart (program : Text) (fault : FileFault)
  | ended (program : Text) (status : ExitStatus) (remarks : Text)
  | notUtf8 (program : Text) (fault : Utf8Fault)
  | described (words : Text)
deriving DecidableEq

def ConversionFault.message : ConversionFault → Text
  | .cannotStart program fault => "cannot start '" ++ program ++ "': " ++ fault.message
  | .ended program status remarks =>
    "'" ++ program ++ "' exited with " ++ status.message ++ ": " ++ remarks
  | .notUtf8 program fault => "'" ++ program ++ "' produced non-UTF-8 output: " ++ fault.message
  | .described words => words

/-- Why a document is not what it should be: no JSON, or JSON of another shape. -/
inductive DocumentFault where
  | malformed (fault : Json.SyntaxFault)
  | misshapen (fault : ShapeFault)
deriving DecidableEq

def DocumentFault.message : DocumentFault → Text
  | .malformed fault => fault.message
  | .misshapen fault => fault.message

/-- What ends a run. -/
inductive Failure where
  | fileNotFound (path : Text)
  | unreadable (path : Text) (fault : FileFault)
  | unwritable (path : Text) (fault : FileFault)
  | remoteDisabled (url : Text)
  | invalidJson (fault : Json.SyntaxFault)
  | invalidDocument (what : Text) (fault : DocumentFault)
  | conversion (fault : ConversionFault)
  | strictWarnings (count : Nat)
deriving DecidableEq

namespace Failure

def message : Failure → Text
  | .fileNotFound path => "file not found: " ++ path
  | .unreadable path fault => "cannot read " ++ path ++ ": " ++ fault.message
  | .unwritable path fault => "cannot write " ++ path ++ ": " ++ fault.message
  | .remoteDisabled url => "remote sources are not supported in this build: " ++ url
  | .invalidJson fault => "invalid JSON: " ++ fault.message
  | .invalidDocument what fault => "unexpected shape of " ++ what ++ ": " ++ fault.message
  | .conversion fault => "OpenAPI conversion failed: " ++ fault.message
  | .strictWarnings count => Text.ofNat count ++ " warning(s) reported in strict mode"

def exitCode : Failure → Nat
  | .fileNotFound _ => 3
  | .unreadable _ _ => 3
  | .unwritable _ _ => 3
  | .remoteDisabled _ => 3
  | .invalidJson _ => 2
  | .invalidDocument _ _ => 2
  | .conversion _ => 2
  | .strictWarnings _ => 1

end Failure
end ApiTypes
