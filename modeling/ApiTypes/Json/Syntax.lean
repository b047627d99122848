import ApiTypes.Text
/-!
# What can be wrong with the text of a document

A reader stops at an offending byte and knows how many bytes come behind it (`Stop`).  Line and
column are worked out from the whole text afterwards (`locate`), so reading carries no position
along.
-/
namespace ApiTypes
namespace Json

inductive Malformation where
  | endOfValue
  | endOfList
  | endOfObject
  | endOfString
  | expectedValue
  | expectedWord
  | expectedColon
  | expectedListEnd
  | expectedObjectEnd
  | keyNotString
  | trailingComma
  | trailingCharacters
  | invalidNumber
  | numberOutOfRange
  | invalidEscape
  | controlCharacter
  | loneSurrogate
  | unfinishedSurrogate
  | tooDeep
deriving DecidableEq

def Malformation.message : Malformation → Text
  | .endOfValue => "EOF while parsing a value"
  | .endOfList => "EOF while parsing a list"
  | .endOfObject => "EOF while parsing an object"
  | .endOfString => "EOF while parsing a string"
  | .expectedValue => "expected value"
  | .expectedWord => "expected ident"
  | .expectedColon => "expected `:`"
  | .expectedListEnd => "expected `,` or `]`"
  | .expectedObjectEnd => "expected `,` or `\x7d`"
  | .keyNotString => "key must be a string"
  | .trailingComma => "trailing comma"
  | .trailingCharacters => "trailing characters"
  | .invalidNumber => "invalid number"
  | .numberOutOfRange => "number out of range"
  | .invalidEscape => "invalid escape"
  | .controlCharacter => "control character (\\u0000-\\u001F) found while parsing a string"
  | .loneSurrogate => "lone leading surrogate in hex escape"
  | .unfinishedSurrogate => "unexpected end of hex escape"
  | .tooDeep => "recursion limit exceeded"

/-- Where a reader stopped: `behind` bytes of the text come after the offending byte. -/
structure Stop where
  cause : Malformation
  behind : Nat
deriving DecidableEq

abbrev Reader (α : Type) := Text → Except Stop (α × Text)

/-- The offending byte is the first one of `rest`, or `rest` ended too early. -/
def stopAt {α : Type} (cause : Malformation) (rest : Text) : Except Stop α :=
  .error ⟨cause, Text.byteLength rest - 1⟩

/-- The offending byte is the one just read, in front of `rest`. -/
def stopBefore {α : Type} (cause : Malformation) (rest : Text) : Except Stop α :=
  .error ⟨cause, Text.byteLength rest⟩

/-- Why a text is no document: a malformation, the line of the offending byte counted from one, and
the number of bytes in that line up to and including the byte. -/
structure SyntaxFault where
  cause : Malformation
  line : Nat
  column : Nat
deriving DecidableEq

def SyntaxFault.message (fault : SyntaxFault) : Text :=
  fault.cause.message ++ " at line " ++ Text.ofNat fault.line ++ " column "
    ++ Text.ofNat fault.column

/-- Line and column after `offset` bytes of a text that starts at a line and column. -/
def locate : Text → (offset line column : Nat) → Nat × Nat
  | [], offset, line, column => (line, column + offset)
  | c :: rest, offset, line, column =>
    if offset < c.utf8Size then (line, column + offset)
    else if c = '\n' then locate rest (offset - 1) (line + 1) 0
    else locate rest (offset - c.utf8Size) line (column + c.utf8Size)

def Stop.inText (t : Text) (stop : Stop) : SyntaxFault :=
  let (line, column) := locate t (Text.byteLength t - stop.behind) 1 0
  ⟨stop.cause, line, column⟩

end Json
end ApiTypes
