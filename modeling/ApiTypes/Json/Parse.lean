import ApiTypes.Json.String
import ApiTypes.Json.Number
/-!
# Reading a JSON document

The depth of nesting is limited, and the limit is what the recursion runs on: a value at depth
`d + 1` reads the values inside it at depth `d`.  Inside one list or object the loop runs on a count
of steps; each step reads at least one character, so the length of the text is always enough.
-/
namespace ApiTypes
namespace Json

def isSpace (c : Char) : Bool := c = ' ' || c = '\t' || c = '\n' || c = '\r'

def skipSpace (t : Text) : Text := t.dropWhile isSpace

/-- How many containers may be open at once. -/
def depthLimit : Nat := 127

def readWord (value : Json) : (letters : Text) → Reader Json
  | [], t => .ok (value, t)
  | _ :: _, [] => stopAt .endOfValue []
  | l :: letters, c :: rest =>
    if c = l then readWord value letters rest else stopAt .expectedWord (c :: rest)

/-- Reads the items of a list from the first or from one behind a comma; `done` are those before,
the last one first. -/
def readItems (item : Reader Json) : (steps : Nat) → (done : List Json) → Reader (List Json)
  | 0, _, t => stopAt .endOfList t
  | steps + 1, done, t => do
    let (v, rest) ← item t
    match skipSpace rest with
    | [] => stopAt .endOfList []
    | ']' :: behind => return ((v :: done).reverse, behind)
    | ',' :: behind =>
      match skipSpace behind with
      | [] => stopAt .endOfValue []
      | ']' :: last => stopAt .trailingComma (']' :: last)
      | next => readItems item steps (v :: done) next
    | other => stopAt .expectedListEnd other

def readList (item : Reader Json) : Reader Json := fun t =>
  match skipSpace t with
  | [] => stopAt .endOfList []
  | ']' :: rest => .ok (.arr [], rest)
  | first => do
    let (items, rest) ← readItems item first.length [] first
    return (.arr items, rest)

/-- Reads a member of an object, from the quote of its key on. -/
def readMember (item : Reader Json) : Reader (Text × Json)
  | '"' :: t => do
    let (key, rest) ← readString .plain [] t
    match skipSpace rest with
    | [] => stopAt .endOfObject []
    | ':' :: behind =>
      let (v, rest) ← item behind
      return ((key, v), rest)
    | other => stopAt .expectedColon other
  | t => stopAt .keyNotString t

/-- Reads the members of an object from the first or from one behind a comma; `done` are those
before. -/
def readMembers (item : Reader Json) :
    (steps : Nat) → (done : List (Text × Json)) → Reader (List (Text × Json))
  | 0, _, t => stopAt .endOfObject t
  | steps + 1, done, t => do
    let ((key, v), rest) ← readMember item t
    let done := insertMember key v done
    match skipSpace rest with
    | [] => stopAt .endOfObject []
    | '\x7d' :: behind => return (done, behind)
    | ',' :: behind =>
      match skipSpace behind with
      | [] => stopAt .endOfValue []
      | '\x7d' :: last => stopAt .trailingComma ('\x7d' :: last)
      | next => readMembers item steps done next
    | other => stopAt .expectedObjectEnd other

def readObject (item : Reader Json) : Reader Json := fun t =>
  match skipSpace t with
  | [] => stopAt .endOfObject []
  | '\x7d' :: rest => .ok (.obj [], rest)
  | first => do
    let (members, rest) ← readMembers item first.length [] first
    return (.obj members, rest)

def readScalar : Reader Json
  | [] => stopAt .endOfValue []
  | 'n' :: rest => readWord .null "ull" rest
  | 't' :: rest => readWord (.bool true) "rue" rest
  | 'f' :: rest => readWord (.bool false) "alse" rest
  | '-' :: rest => readNumber true rest
  | '"' :: rest => do
    let (t, rest) ← readString .plain [] rest
    return (.str t, rest)
  | c :: rest =>
    if c.isDigit then readNumber false (c :: rest) else stopAt .expectedValue (c :: rest)

/-- Reads a value inside which `depth` containers may be open. -/
def readValue : (depth : Nat) → Reader Json
  | 0, t =>
    match skipSpace t with
    | '[' :: rest => stopAt .tooDeep ('[' :: rest)
    | '\x7b' :: rest => stopAt .tooDeep ('\x7b' :: rest)
    | other => readScalar other
  | depth + 1, t =>
    match skipSpace t with
    | '[' :: rest => readList (readValue depth) rest
    | '\x7b' :: rest => readObject (readValue depth) rest
    | other => readScalar other

def readDocument (t : Text) : Except Stop Json := do
  let (v, rest) ← readValue depthLimit t
  match skipSpace rest with
  | [] => return v
  | other => stopAt .trailingCharacters other

def parse (t : Text) : Except SyntaxFault Json := (readDocument t).mapError (Stop.inText t)

end Json
end ApiTypes
