import ApiTypes.CommandLine
import ApiTypes.Text.Terminal
/-!
# What can be wrong with a command line

Each fault has one line of words.
-/
namespace ApiTypes
namespace CommandLine

inductive NumberFault where
  | empty
  | invalidDigit
  | tooLarge
deriving DecidableEq

def NumberFault.message : NumberFault → Text
  | .empty => "cannot parse integer from empty string"
  | .invalidDigit => "invalid digit found in string"
  | .tooLarge => "number too large to fit in target type"

inductive UsageFault where
  | unexpectedArgument (arg : Text)
  | unrecognizedSubcommand (name : Text)
  | valueRequired (o : Opt)
  /-- A value for a switch, which is shown as it is written. -/
  | unexpectedValue (value shown : Text)
  | repeated (o : Opt)
  | invalidNumber (value : Text) (o : Opt) (fault : NumberFault)
  | conflict (first second : Opt)
  | missingRequired
deriving DecidableEq

/-- The fault in one line.  What was given on the command line is quoted without anything that
would steer a terminal. -/
def UsageFault.message : UsageFault → Text
  | .unexpectedArgument arg => "error: unexpected argument '" ++ arg.unsteering ++ "' found"
  | .unrecognizedSubcommand name =>
    "error: unrecognized subcommand '" ++ name.unsteering ++ "'"
  | .valueRequired o => "error: a value is required for '" ++ o.text ++ "' but none was supplied"
  | .unexpectedValue value shown =>
    "error: unexpected value '" ++ value.unsteering ++ "' for '" ++ shown.unsteering
      ++ "' found; no more were expected"
  | .repeated o => "error: the argument '" ++ o.text ++ "' cannot be used multiple times"
  | .invalidNumber value o fault =>
    "error: invalid value '" ++ value.unsteering ++ "' for '" ++ o.text ++ "': " ++ fault.message
  | .conflict first second =>
    "error: the argument '" ++ first.text ++ "' cannot be used with '" ++ second.text ++ "'"
  | .missingRequired => "error: the following required arguments were not provided:"

/-- The first number of seconds that is too large. -/
def secondsLimit : Nat := 18446744073709551616

/-- Decimal digits, read from the left; the first thing wrong counts. -/
def readSeconds : (value : Nat) → Text → Except NumberFault Nat
  | value, [] => .ok value
  | value, c :: rest =>
    if !c.isDigit then .error .invalidDigit
    else
      let next := value * 10 + (c.toNat - '0'.toNat)
      if next < secondsLimit then readSeconds next rest else .error .tooLarge

def seconds : Text → Except NumberFault Nat
  | [] => .error .empty
  | ['+'] => .error .invalidDigit
  | '+' :: digits => readSeconds 0 digits
  | digits => readSeconds 0 digits

end CommandLine
end ApiTypes
