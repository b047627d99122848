import ApiTypes.Script.Source
/-!
# Reading words

What ends a word, and what a quote or a backslash means in it, depends on where it stands: outside
of everything, inside double quotes, inside the braces of a parameter, in a numeric expression, or
in a text within the script.  The reading of commands inside of words is left to a reader that is
given.
-/
namespace ApiTypes
namespace Script

inductive Context where
  | plain
  | doubleQuotes
  /-- Inside the braces of a parameter, which may itself be quoted. -/
  | braces (inQuotes : Bool)
  | expression
  | document
deriving DecidableEq

def Context.isQuoted : Context → Bool
  | .plain => false
  | .braces inQuotes => inQuotes
  | _ => true

/-- A word being read: its finished parts and the characters behind them, both last first. -/
structure Draft where
  parts : List Part
  letters : Octets
  lettersQuoted : Bool
  touched : Bool

namespace Draft

def empty : Draft := ⟨[], [], false, false⟩

def settle (d : Draft) : Draft :=
  if d.letters.isEmpty then d
  else { d with parts := .literal d.letters.reverse d.lettersQuoted :: d.parts, letters := [] }

def push (d : Draft) (quoted : Bool) (c : Char) : Draft :=
  if d.lettersQuoted = quoted then { d with letters := c :: d.letters }
  else { d.settle with letters := [c], lettersQuoted := quoted }

def pushAll (d : Draft) (quoted : Bool) (t : Octets) : Draft := t.foldl (push · quoted) d

def add (d : Draft) (p : Part) : Draft := let d := d.settle; { d with parts := p :: d.parts }

def touch (d : Draft) : Draft := { d with touched := true }

def word (d : Draft) : Word := d.settle.parts.reverse

/-- The parts between double quotes added.  The quotes by themselves make a word, unless all they
hold is the list of all arguments. -/
def addQuoted (d inner : Draft) : Draft :=
  let d := d.touch
  match inner.word with
  | [.parameter ['@'] .value q] => d.add (.parameter ['@'] .value q)
  | parts => parts.foldl add (d.add .quotes)

end Draft

def endsWord (c : Char) : Bool := " \t\n;&|()<>".toList.contains c

def readEscaped (context : Context) (d : Draft) : Reader Draft := do
  match ← Reader.takeRaw with
  | none => return d.push true '\\'
  | some c =>
    let d := d.touch
    let isEscape : Bool :=
      match context with
      | .plain => true
      | .braces false => true
      | .braces true => "\\$\x60\"\x7d".toList.contains c
      | .document => "\\$\x60".toList.contains c
      | _ => "\\$\x60\"".toList.contains c
    return if isEscape then d.push true c else (d.push true '\\').push true c

def readSingleQuotes (d : Draft) : Reader Draft := do
  let s ← get
  let inner := s.rest.takeWhile (fun c => c ≠ '\'')
  let lines := s.line + inner.count '\n'
  match s.rest.drop inner.length with
  | [] => throw ⟨lines, .openQuotes⟩
  | _ :: rest =>
    set { s with rest := rest, line := lines }
    return (d.touch.add .quotes).pushAll true inner

def endOfSource (context : Context) (d : Draft) : Reader Draft :=
  match context with
  | .plain => return d
  | .document => return d
  | .doubleQuotes => Reader.fail .openQuotes
  | .braces true => Reader.fail .openQuotes
  | .braces false => Reader.fail .openBraces
  | .expression => Reader.fail .openExpression

/-- What is between backquotes, without the backslashes that escape in there; `steps` is at least
the number of characters. -/
def readBackquoted (inQuotes : Bool) : (steps : Nat) → Reader Octets
  | 0 => Reader.fail .openBackquotes
  | steps + 1 => do
    match ← Reader.take with
    | none => Reader.fail .openBackquotes
    | some '\x60' => return []
    | some '\\' =>
      match ← Reader.takeRaw with
      | none => Reader.fail .openBackquotes
      | some c =>
        let rest ← readBackquoted inQuotes steps
        if "\\$\x60".toList.contains c || (c = '"' && inQuotes) then return c :: rest
        else return '\\' :: c :: rest
    | some c => return c :: (← readBackquoted inQuotes steps)

/-- How commands inside of words are read: those in parentheses up to the closing one, others up to
the end. -/
structure Nested where
  upToParen : Reader Command
  upToEnd : Reader Command

def Nested.ofText (nested : Nested) (text : Octets) : Reader Command := do
  let s ← get
  set { s with rest := text, line := 1, pushed := none, announced := [] }
  let command ← nested.upToEnd
  modify fun inner => { s with documents := inner.documents, numbered := inner.numbered }
  return command

/-- What is done with a parameter, from its name in braces on; the word that belongs to it is still
to be read, and `none` means that there is none. -/
def readUse : Reader (Option (Word → Use) × Bool) := do
  let relation (orEmpty : Bool) : Char → Option (Word → Use)
    | '-' => some (.orElse orEmpty)
    | '=' => some (.orAssign orEmpty)
    | '?' => some (.orFail orEmpty)
    | '+' => some (.ifSet orEmpty)
    | _ => none
  let malformed : Word → Use := fun _ => .malformed
  match ← Reader.take with
  | some '\x7d' => return (none, false)
  | some ':' =>
    let c ← Reader.take
    return (some ((c.bind (relation true)).getD malformed), false)
  | some '%' => return (some (.trim true (← Reader.takeIf '%')), true)
  | some '#' => return (some (.trim false (← Reader.takeIf '#')), true)
  | some c => return (some ((relation false c).getD malformed), false)
  | none => return (some malformed, false)

mutual

/-- Parts up to the end of a context.  `inner` tells of quotes opened inside quoted braces, `depth`
of parentheses opened in an expression. -/
def readParts (nested : Nested) :
    (fuel : Nat) → Context → (inner : Bool) → (depth : Nat) → Draft → Reader Draft
  | 0, _, _, _, _ => Reader.fail .tooDeep
  | fuel + 1, context, inner, depth, d => do
    match ← Reader.peek with
    | none => endOfSource context d
    | some c =>
      if context = .plain && endsWord c then return d
      else
        let _ ← Reader.takeRaw
        let quoted := context.isQuoted
        let literal := readParts nested fuel context inner depth (d.push quoted c)
        match c, context with
        | '\\', _ => readParts nested fuel context inner depth (← readEscaped context d)
        | '$', _ => readParts nested fuel context inner depth (← readDollar nested fuel context d)
        | '\x60', _ =>
          let inQuotes := quoted
          let text ← readBackquoted inQuotes ((← get).rest.length + 1)
          let body ← nested.ofText text
          readParts nested fuel context inner depth (d.add (.results body quoted))
        | '"', .doubleQuotes => return d
        | '"', .braces true => readParts nested fuel context (!inner) depth (d.add .quotes)
        | '"', .expression => literal
        | '"', .document => literal
        | '"', _ =>
          let content ← readParts nested fuel .doubleQuotes false 0 .empty
          readParts nested fuel context inner depth (d.addQuoted content)
        | '\'', .plain => readParts nested fuel context inner depth (← readSingleQuotes d)
        | '\'', .braces false => readParts nested fuel context inner depth (← readSingleQuotes d)
        | '\x7d', .braces _ => if inner then literal else return d
        | '(', .expression => readParts nested fuel context inner (depth + 1) (d.push quoted c)
        | ')', .expression =>
          if 0 < depth then readParts nested fuel context inner (depth - 1) (d.push quoted c)
          else if ← Reader.takeIf ')' then return d
          else literal
        | _, _ => literal

def readDollar (nested : Nested) : (fuel : Nat) → Context → Draft → Reader Draft
  | 0, _, _ => Reader.fail .tooDeep
  | fuel + 1, context, d => do
    let quoted := context.isQuoted
    match ← Reader.peek with
    | some '(' =>
      let _ ← Reader.takeRaw
      if ← Reader.takeIf '(' then
        let e ← readParts nested fuel .expression false 0 .empty
        return d.add (.number e.word quoted)
      else
        let body ← nested.upToParen
        return d.add (.results body quoted)
    | some '\x7b' =>
      let _ ← Reader.takeRaw
      readBraced nested fuel context d
    | some c =>
      if isNameStart c then
        let name ← Reader.takeWhile isNameChar ((← get).rest.length)
        return d.add (.parameter name .value quoted)
      else if isSpecial c then
        let _ ← Reader.takeRaw
        return d.add (.parameter [c] .value quoted)
      else return d.push quoted '$'
    | none => return d.push quoted '$'

def readBraced (nested : Nested) : (fuel : Nat) → Context → Draft → Reader Draft
  | 0, _, _ => Reader.fail .tooDeep
  | fuel + 1, context, d => do
    let quoted := context.isQuoted
    let limit := (← get).rest.length
    let readName (c : Char) : Reader Octets :=
      Reader.takeWhile (if c.isDigit then Char.isDigit else isNameChar) limit
    let withUse (name : Octets) : Reader Draft := do
      match ← readUse with
      | (none, _) => return d.add (.parameter name .value quoted)
      | (some use, isPattern) =>
        let w ← readParts nested fuel (.braces (quoted && !isPattern)) false 0 .empty
        return d.add (.parameter name (use w.word) quoted)
    let malformed : Reader Draft := do
      let _ ← readParts nested fuel (.braces quoted) false 0 .empty
      return d.add (.parameter [] .malformed quoted)
    match ← Reader.peek with
    | some c =>
      if isNameChar c then withUse (← readName c)
      else if c = '\x7d' then malformed
      else
        let _ ← Reader.takeRaw
        let next ← Reader.peek
        if c = '#' then
          match next with
          | some n =>
            if isNameChar n then
              let name ← readName n
              if ← Reader.takeIf '\x7d' then return d.add (.parameter name .length quoted)
              else malformed
            else
              let s ← get
              let _ ← Reader.takeRaw
              let behind ← Reader.peek
              if n = '\x7d' || behind ≠ some '\x7d' then
                set s
                withUse ['#']
              else if isSpecial n then
                let _ ← Reader.takeRaw
                return d.add (.parameter [n] .length quoted)
              else malformed
          | none => malformed
        else if isSpecial c then withUse [c]
        else malformed
    | none => malformed

end

def readArrow (c : Char) : Reader Arrow := do
  if c = '>' then
    if ← Reader.takeIf '>' then return .access .append
    else if ← Reader.takeIf '|' then return .access .overwrite
    else if ← Reader.takeIf '&' then return .sameAs
    else return .access .write
  else
    if ← Reader.takeIf '<' then return .document (← Reader.takeIf '-')
    else if ← Reader.takeIf '&' then return .sameAs
    else if ← Reader.takeIf '>' then return .access .readWrite
    else return .access .read

/-- The number of a stream that a word in front of an arrow gives; none if the word stands for
itself. -/
def Draft.stream? (d : Draft) (c : Char) : Option Nat :=
  match d.parts, d.letters, d.touched with
  | [], [], false => some (if c = '<' then 0 else 1)
  | [], [n], false => if n.isDigit then some (n.toNat - '0'.toNat) else none
  | _, _, _ => none

/-- The next token, which may be a word that reads like a keyword. -/
def scanToken (nested : Nested) (fuel : Nat) : Reader Token := do
  let limit := (← get).rest.length
  let _ ← Reader.takeWhile (fun c => c = ' ' || c = '\t') limit
  if (← Reader.peek) = some '#' then
    let s ← get
    set { s with rest := s.rest.dropWhile (fun c => c ≠ '\n') }
  match ← Reader.peek with
  | none => return .endOfFile
  | some '\n' => let _ ← Reader.takeRaw; return .newline
  | some '(' => let _ ← Reader.takeRaw; return .openParen
  | some ')' => let _ ← Reader.takeRaw; return .closeParen
  | some '&' =>
    let _ ← Reader.takeRaw
    if ← Reader.takeIf '&' then return .bothSign else return .ampersand
  | some '|' =>
    let _ ← Reader.takeRaw
    if ← Reader.takeIf '|' then return .eitherSign else return .pipe
  | some ';' =>
    let _ ← Reader.takeRaw
    if ← Reader.takeIf ';' then return .clauseEnd else return .semicolon
  | some _ =>
    let d ← readParts nested fuel .plain false 0 .empty
    match ← Reader.peek with
    | some c =>
      if c = '<' || c = '>' then
        match d.stream? c with
        | some n =>
          let _ ← Reader.takeRaw
          return .arrow n (← readArrow c)
        | none => return .word d.word d.touched
      else return .word d.word d.touched
    | none => return .word d.word d.touched

end Script
end ApiTypes
