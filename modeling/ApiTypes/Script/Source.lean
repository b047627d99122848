import ApiTypes.Script
/-!
# Reading a script

A script is read from its front.  A reader takes characters from the source and gives what it has
read, or a fault with the line it was met in.  A backslash in front of a line break joins two lines
and counts as nothing, save inside single quotes.
-/
namespace ApiTypes
namespace Script

/-- A word with a meaning of its own where a command can begin. -/
inductive Keyword where
  | bang
  | caseOf
  | doBegin
  | done
  | elseIf
  | otherwise
  | esac
  | fi
  | forEach
  | ifTest
  | inList
  | thenBegin
  | untilTest
  | whileTest
  | openBrace
  | closeBrace
deriving DecidableEq

namespace Keyword

def text : Keyword → Octets
  | .bang => "!"
  | .caseOf => "case"
  | .doBegin => "do"
  | .done => "done"
  | .elseIf => "elif"
  | .otherwise => "else"
  | .esac => "esac"
  | .fi => "fi"
  | .forEach => "for"
  | .ifTest => "if"
  | .inList => "in"
  | .thenBegin => "then"
  | .untilTest => "until"
  | .whileTest => "while"
  | .openBrace => "\x7b"
  | .closeBrace => "\x7d"

def all : List Keyword :=
  [.bang, .caseOf, .doBegin, .done, .elseIf, .otherwise, .esac, .fi, .forEach, .ifTest, .inList,
   .thenBegin, .untilTest, .whileTest, .openBrace, .closeBrace]

end Keyword

inductive Arrow where
  | access (a : Access)
  | sameAs
  /-- From a text that follows in the script, without its leading tabs or with them. -/
  | document (stripTabs : Bool)
deriving DecidableEq

inductive Token where
  | word (parts : Word) (touched : Bool)
  | keyword (k : Keyword)
  | arrow (stream : Nat) (a : Arrow)
  | newline
  | semicolon
  | ampersand
  | bothSign
  | eitherSign
  | pipe
  | openParen
  | closeParen
  | clauseEnd
  | endOfFile

def Token.description : Token → Octets
  | .word _ _ => "word"
  | .keyword k => '"' :: k.text ++ ['"']
  | .arrow _ _ => "redirection"
  | .newline => "newline"
  | .semicolon => "\";\""
  | .ampersand => "\"&\""
  | .bothSign => "\"&&\""
  | .eitherSign => "\"||\""
  | .pipe => "\"|\""
  | .openParen => "\"(\""
  | .closeParen => "\")\""
  | .clauseEnd => "\";;\""
  | .endOfFile => "end of file"

inductive FaultCause where
  | unexpected (found : Octets) (wanted : Option Octets)
  | openQuotes
  | openBraces
  | openExpression
  | openBackquotes
  | badFunctionName
  | badLoopVariable
  | badStreamNumber
  | tooDeep
deriving DecidableEq

def FaultCause.message : FaultCause → Octets
  | .unexpected found none => found ++ " unexpected"
  | .unexpected found (some wanted) => found ++ " unexpected (expecting " ++ wanted ++ ")"
  | .openQuotes => "Unterminated quoted string"
  | .openBraces => "Missing '\x7d'"
  | .openExpression => "Missing '))'"
  | .openBackquotes => "EOF in backquote substitution"
  | .badFunctionName => "Bad function name"
  | .badLoopVariable => "Bad for loop variable"
  | .badStreamNumber => "Bad fd number"
  | .tooDeep => "Too deeply nested"

structure Fault where
  line : Nat
  cause : FaultCause
deriving DecidableEq

/-- A text within the script that has been announced and not been read. -/
structure Announced where
  number : Nat
  mark : Octets
  stripTabs : Bool
  expands : Bool

structure Source where
  rest : Octets
  line : Nat
  pushed : Option Token
  announced : List Announced
  documents : List (Nat × Word)
  numbered : Nat

abbrev Reader := StateT Source (Except Fault)

namespace Reader

def fail {α : Type} (cause : FaultCause) : Reader α := do
  throw ⟨(← get).line, cause⟩

def takeRaw : Reader (Option Char) := do
  let s ← get
  match s.rest with
  | [] => return none
  | c :: rest =>
    set { s with rest := rest, line := if c = '\n' then s.line + 1 else s.line }
    return some c

/-- A text without the joined line breaks at its front, and how many there were. -/
def withoutJoints : (lines : Nat) → Octets → Octets × Nat
  | lines, '\\' :: '\n' :: rest => withoutJoints (lines + 1) rest
  | lines, rest => (rest, lines)

/-- The next character, with joined line breaks left out, which is not taken. -/
def peek : Reader (Option Char) := do
  let s ← get
  let (rest, lines) := withoutJoints 0 s.rest
  set { s with rest := rest, line := s.line + lines }
  return rest.head?

def take : Reader (Option Char) := do
  let _ ← peek
  takeRaw

def takeIf (c : Char) : Reader Bool := do
  if (← peek) = some c then
    let _ ← takeRaw
    return true
  else return false

/-- Takes the characters of some kind that come next; `steps` bounds their number. -/
def takeWhile (p : Char → Bool) : (steps : Nat) → Reader Octets
  | 0 => return []
  | steps + 1 => do
    match ← peek with
    | some c =>
      if p c then
        let _ ← takeRaw
        return c :: (← takeWhile p steps)
      else return []
    | none => return []

def push (t : Token) : Reader Unit := modify (fun s => { s with pushed := some t })

end Reader

def isNameStart (c : Char) : Bool := c.isAlpha || c = '_'

def isNameChar (c : Char) : Bool := c.isAlphanum || c = '_'

def isName : Octets → Bool
  | [] => false
  | c :: rest => isNameStart c && rest.all isNameChar

/-- Whether a character is the whole name of a parameter. -/
def isSpecial (c : Char) : Bool := "!#$*-?@".toList.contains c || c.isDigit

end Script
end ApiTypes
