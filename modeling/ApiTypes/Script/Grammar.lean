import ApiTypes.Script.Word
/-!
# Reading commands

Commands are read by descent.  A token read too many is put back, and whether a word may be a
keyword, and whether line breaks count, is said by whoever asks for a token.  Every step deeper or
further takes one from a bound that the length of the script makes large enough.
-/
namespace ApiTypes
namespace Script

structure Asking where
  keywords : Bool
  skipsLines : Bool

namespace Asking

def inside : Asking := ⟨false, false⟩

def command : Asking := ⟨true, true⟩

def commandHere : Asking := ⟨true, false⟩

end Asking

inductive ListKind where
  | line
  /-- At least one command, up to a token that ends lists. -/
  | block
  /-- Any number of commands, up to a token that ends lists. -/
  | body
deriving DecidableEq

def keyword? (parts : Word) (touched : Bool) : Option Keyword :=
  match parts, touched with
  | [.literal t false], false => Keyword.all.find? (fun k => k.text = t)
  | _, _ => none

def Token.word? : Token → Option Word
  | .word parts _ => some parts
  | .keyword k => some [.literal k.text false]
  | _ => none

def Token.endsList : Token → Bool
  | .closeParen => true
  | .clauseEnd => true
  | .endOfFile => true
  | .keyword k =>
    [.doBegin, .done, .elseIf, .otherwise, .esac, .fi, .thenBegin, .closeBrace].contains k
  | _ => false

def unexpected {α : Type} (found : Token) (wanted : Option Token) : Reader α :=
  Reader.fail (.unexpected found.description (wanted.map Token.description))

/-! ## Texts within the script -/

def isJoined (line : Octets) : Bool := (line.reverse.takeWhile (fun c => c = '\\')).length % 2 = 1

/-- The lines of a text within the script, up to the one that ends it; `joined` tells of the line
before. -/
def takeDocument (a : Announced) : (steps : Nat) → (joined : Bool) → Reader Octets
  | 0, _ => return []
  | steps + 1, joined => do
    let s ← get
    if s.rest.isEmpty then return []
    else
      let line := s.rest.takeWhile (fun c => c ≠ '\n')
      let behind := s.rest.drop line.length
      set { s with rest := behind.tail, line := s.line + (if behind.isEmpty then 0 else 1) }
      let shown := if a.stripTabs then line.dropWhile (fun c => c = '\t') else line
      if !joined && shown = a.mark then return []
      else
        let later ← takeDocument a steps (a.expands && isJoined line)
        return shown ++ behind.take 1 ++ later

def finishDocuments (nested : Nested) (fuel : Nat) : Reader Unit := do
  let announced := (← get).announced
  modify fun s => { s with announced := [] }
  for a in announced do
    let text ← takeDocument a ((← get).rest.length + 1) false
    let after ← get
    let parts : Word ←
      if a.expands then do
        set { after with rest := text }
        let d ← readParts nested fuel .document false 0 .empty
        pure d.word
      else pure [.literal text true]
    let s ← get
    set { after with
      documents := s.documents ++ [(a.number, parts)]
      numbered := s.numbered }

/-- The characters of a word as it is written, for the line that ends a text. -/
def markText (w : Word) : Octets :=
  w.flatMap fun
    | .literal t _ => t
    | .parameter name .value _ => '$' :: name
    | _ => []

/-! ## Tokens -/

/-- The next token behind line breaks; `steps` bounds their number. -/
def skipLines (nested : Nested) (fuel : Nat) : (steps : Nat) → Token → Reader Token
  | steps + 1, .newline => do
    finishDocuments nested fuel
    skipLines nested fuel steps (← scanToken nested fuel)
  | _, t => return t

def readToken (nested : Nested) (fuel : Nat) (asking : Asking) : Reader Token := do
  let s ← get
  let t ← match s.pushed with
    | some t => do
      set { s with pushed := none }
      pure t
    | none => scanToken nested fuel
  let t ← if asking.skipsLines then skipLines nested fuel (s.rest.length + 1) t else pure t
  match t with
  | .word parts touched =>
    if asking.keywords then
      return ((keyword? parts touched).map Token.keyword).getD t
    else return t
  | _ => return t

/-! ## Commands -/

def assignment? : Word → Option (Octets × Word)
  | .literal t false :: rest =>
    let name := t.takeWhile isNameChar
    match t.drop name.length with
    | '=' :: value =>
      if isName name then
        some (name, if value.isEmpty then rest else .literal value false :: rest)
      else none
    | _ => none
  | _ => none

def specialNames : List Octets :=
  [".", ":", "break", "continue", "eval", "exec", "exit", "export", "readonly", "return", "set",
   "shift", "times", "trap", "unset"]

def functionName? : Word → Option Octets
  | [.literal t false] => if isName t && !specialNames.contains t then some t else none
  | _ => none

/-- A simple command being read, everything last first. -/
structure Outline where
  assignments : List (Octets × Word)
  words : List Word
  redirections : List Redirection

def joined : Option Command → Command → Command
  | none, second => second
  | some first, second => .sequence first second

mutual

def nested : (fuel : Nat) → Nested
  | 0 => ⟨Reader.fail .tooDeep, Reader.fail .tooDeep⟩
  | fuel + 1 =>
    { upToParen := do
        let outer ← get
        set { outer with pushed := none, announced := [] }
        let body ← readList fuel .body none
        let t ← readToken (nested fuel) fuel .inside
        match t with
        | .closeParen =>
          modify fun s => { s with pushed := none, announced := outer.announced }
          return body.getD .nothing
        | _ => unexpected t (some .closeParen)
      upToEnd := do return (← readList fuel .body none).getD .nothing }

/-- A list of commands, behind those read so far; none if the script is at its end. -/
def readList : (fuel : Nat) → ListKind → Option Command → Reader (Option Command)
  | 0, _, _ => Reader.fail .tooDeep
  | fuel + 1, kind, before => do
    let t ← readToken (nested fuel) fuel ⟨true, kind ≠ .line⟩
    match t with
    | .newline =>
      finishDocuments (nested fuel) fuel
      return some (before.getD .nothing)
    | .endOfFile =>
      finishDocuments (nested fuel) fuel
      Reader.push .endOfFile
      return before
    | _ =>
      Reader.push t
      let mayEnd : Bool := kind = .body || (kind = .block && before.isSome)
      if mayEnd && t.endsList then return before
      else
        let c ← readAndOr fuel .inside
        let t ← readToken (nested fuel) fuel .inside
        let line := (← get).line
        let c := match t with
          | .ampersand => .background line c []
          | _ => c
        let read := some (joined before c)
        match t with
        | .endOfFile =>
          finishDocuments (nested fuel) fuel
          Reader.push .endOfFile
          return read
        | .newline =>
          Reader.push t
          readList fuel kind read
        | .ampersand => readList fuel kind read
        | .semicolon => readList fuel kind read
        | _ =>
          if kind = .line then unexpected t none
          else
            Reader.push t
            return read

def readAndOr : (fuel : Nat) → Asking → Reader Command
  | 0, _ => Reader.fail .tooDeep
  | fuel + 1, asking => do readAndOrRest fuel (← readPipeline fuel asking)

def readAndOrRest : (fuel : Nat) → Command → Reader Command
  | 0, _ => Reader.fail .tooDeep
  | fuel + 1, first => do
    let t ← readToken (nested fuel) fuel .inside
    match t with
    | .bothSign => readAndOrRest fuel (.both first (← readPipeline fuel .command))
    | .eitherSign => readAndOrRest fuel (.either first (← readPipeline fuel .command))
    | _ =>
      Reader.push t
      return first

def readPipeline : (fuel : Nat) → Asking → Reader Command
  | 0, _ => Reader.fail .tooDeep
  | fuel + 1, asking => do
    let t ← readToken (nested fuel) fuel asking
    match t with
    | .keyword .bang =>
      let first ← readCommand fuel .commandHere
      return .negation (← readPipes fuel first)
    | _ =>
      Reader.push t
      let first ← readCommand fuel .inside
      readPipes fuel first

def readPipes : (fuel : Nat) → Command → Reader Command
  | 0, _ => Reader.fail .tooDeep
  | fuel + 1, first => do
    let others ← readPiped fuel
    return if others.isEmpty then first else .pipeline (first :: others)

def readPiped : (fuel : Nat) → Reader (List Command)
  | 0 => Reader.fail .tooDeep
  | fuel + 1 => do
    let t ← readToken (nested fuel) fuel .inside
    match t with
    | .pipe =>
      let c ← readCommand fuel .command
      return c :: (← readPiped fuel)
    | _ =>
      Reader.push t
      return []

def readCommand : (fuel : Nat) → Asking → Reader Command
  | 0, _ => Reader.fail .tooDeep
  | fuel + 1, asking => do
    let t ← readToken (nested fuel) fuel asking
    let line := (← get).line
    let expect (wanted : Token) : Reader Unit := do
      let t ← readToken (nested fuel) fuel .inside
      match t, wanted with
      | .closeParen, .closeParen => return
      | .keyword a, .keyword b => if a = b then return else unexpected t (some wanted)
      | _, _ => unexpected t (some wanted)
    let block : Reader Command := do return (← readList fuel .block none).getD .nothing
    match t with
    | .keyword .ifTest =>
      let c ← readBranches fuel
      readRedirected fuel line c
    | .keyword .whileTest =>
      let test ← block
      expect (.keyword .doBegin)
      let body ← block
      expect (.keyword .done)
      readRedirected fuel line (.loop true test body)
    | .keyword .untilTest =>
      let test ← block
      expect (.keyword .doBegin)
      let body ← block
      expect (.keyword .done)
      readRedirected fuel line (.loop false test body)
    | .keyword .forEach =>
      let name ← match ← readToken (nested fuel) fuel .inside with
        | .word [.literal t false] false =>
          if isName t then pure t else Reader.fail .badLoopVariable
        | _ => Reader.fail .badLoopVariable
      let t ← readToken (nested fuel) fuel .command
      let words : List Word ← match t with
        | .keyword .inList => readWords fuel
        | .semicolon => pure [[.parameter ['@'] .value true]]
        | _ => do
          Reader.push t
          pure [[.parameter ['@'] .value true]]
      let t ← readToken (nested fuel) fuel .command
      match t with
      | .keyword .doBegin =>
        let body ← block
        expect (.keyword .done)
        readRedirected fuel line (.each line name words body)
      | _ => unexpected t (some (.keyword .doBegin))
    | .keyword .caseOf =>
      let t ← readToken (nested fuel) fuel .inside
      match t with
      | .word subject _ =>
        let t ← readToken (nested fuel) fuel .command
        match t with
        | .keyword .inList =>
          let clauses ← readClauses fuel
          readRedirected fuel line (.choice line subject clauses)
        | _ => unexpected t (some (.keyword .inList))
      | _ => unexpected t (some (.word [] false))
    | .openParen =>
      let body ← block
      expect .closeParen
      return .subshell line body (← readRedirections fuel)
    | .keyword .openBrace =>
      let body ← block
      expect (.keyword .closeBrace)
      readRedirected fuel line body
    | .word _ _ =>
      Reader.push t
      readSimple fuel line ⟨[], [], []⟩
    | .arrow _ _ =>
      Reader.push t
      readSimple fuel line ⟨[], [], []⟩
    | _ => unexpected t none

/-- A test, what is done if it succeeds, and the other branches, from behind the first word on. -/
def readBranches : (fuel : Nat) → Reader Command
  | 0 => Reader.fail .tooDeep
  | fuel + 1 => do
    let test := (← readList fuel .block none).getD .nothing
    let t ← readToken (nested fuel) fuel .inside
    match t with
    | .keyword .thenBegin =>
      let yes := (← readList fuel .block none).getD .nothing
      let t ← readToken (nested fuel) fuel .inside
      match t with
      | .keyword .elseIf => return .conditional test yes (some (← readBranches fuel))
      | .keyword .otherwise =>
        let no := (← readList fuel .block none).getD .nothing
        let t ← readToken (nested fuel) fuel .inside
        match t with
        | .keyword .fi => return .conditional test yes (some no)
        | _ => unexpected t (some (.keyword .fi))
      | .keyword .fi => return .conditional test yes none
      | _ => unexpected t (some (.keyword .fi))
    | _ => unexpected t (some (.keyword .thenBegin))

def readWords : (fuel : Nat) → Reader (List Word)
  | 0 => Reader.fail .tooDeep
  | fuel + 1 => do
    let t ← readToken (nested fuel) fuel .inside
    match t with
    | .word w _ => return w :: (← readWords fuel)
    | .newline =>
      finishDocuments (nested fuel) fuel
      return []
    | .semicolon => return []
    | _ => unexpected t none

def readClauses : (fuel : Nat) → Reader (List (List Word × Command))
  | 0 => Reader.fail .tooDeep
  | fuel + 1 => do
    let t ← readToken (nested fuel) fuel .command
    match t with
    | .keyword .esac => return []
    | _ =>
      let t ← match t with
        | .openParen => readToken (nested fuel) fuel .inside
        | _ => pure t
      let patterns ← readPatterns fuel t
      let body := (← readList fuel .body none).getD .nothing
      let t ← readToken (nested fuel) fuel .command
      match t with
      | .keyword .esac => return [(patterns, body)]
      | .clauseEnd => return (patterns, body) :: (← readClauses fuel)
      | _ => unexpected t (some .clauseEnd)

/-- The patterns of a clause, of which the first token has been read. -/
def readPatterns : (fuel : Nat) → Token → Reader (List Word)
  | 0, _ => Reader.fail .tooDeep
  | fuel + 1, t => do
    match t.word? with
    | none => unexpected t none
    | some w =>
      let t ← readToken (nested fuel) fuel .inside
      match t with
      | .pipe => return w :: (← readPatterns fuel (← readToken (nested fuel) fuel .inside))
      | .closeParen => return [w]
      | _ => unexpected t (some .closeParen)

def readRedirected : (fuel : Nat) → (line : Nat) → Command → Reader Command
  | 0, _, _ => Reader.fail .tooDeep
  | fuel + 1, line, c => do
    let redirections ← readRedirections fuel
    return if redirections.isEmpty then c else .redirected line c redirections

def readRedirections : (fuel : Nat) → Reader (List Redirection)
  | 0 => Reader.fail .tooDeep
  | fuel + 1 => do
    let t ← readToken (nested fuel) fuel .commandHere
    match t with
    | .arrow n a =>
      let r ← readRedirection fuel n a
      return r :: (← readRedirections fuel)
    | _ =>
      Reader.push t
      return []

def readRedirection : (fuel : Nat) → (stream : Nat) → Arrow → Reader Redirection
  | 0, _, _ => Reader.fail .tooDeep
  | fuel + 1, n, a => do
    let t ← readToken (nested fuel) fuel .inside
    match t with
    | .word w touched =>
      match a with
      | .access access => return .file n access w
      | .sameAs =>
        match w, touched with
        | [.literal ['-'] false], false => return .close n
        | _, _ => return .stream n w
      | .document stripTabs =>
        let s ← get
        let announced : Announced := ⟨s.numbered, markText w, stripTabs, !touched⟩
        set { s with announced := s.announced ++ [announced], numbered := s.numbered + 1 }
        return .document n s.numbered
    | _ => unexpected t none

def readSimple : (fuel : Nat) → (line : Nat) → Outline → Reader Command
  | 0, _, _ => Reader.fail .tooDeep
  | fuel + 1, line, o => do
    let t ← readToken (nested fuel) fuel .inside
    let finished : Reader Command := do
      Reader.push t
      return .simple line o.assignments.reverse o.words.reverse o.redirections.reverse
    match t with
    | .word w _ =>
      match o.words, assignment? w with
      | [], some a => readSimple fuel line { o with assignments := a :: o.assignments }
      | _, _ => readSimple fuel line { o with words := w :: o.words }
    | .arrow n a =>
      let r ← readRedirection fuel n a
      readSimple fuel line { o with redirections := r :: o.redirections }
    | .openParen =>
      match o.words, o.assignments.isEmpty && o.redirections.isEmpty with
      | [w], true =>
        let t ← readToken (nested fuel) fuel .inside
        match t with
        | .closeParen =>
          match functionName? w with
          | some name => return .definition name (← readCommand fuel .command)
          | none => Reader.fail .badFunctionName
        | _ => unexpected t (some .closeParen)
      | _, _ => finished
    | _ => finished

end

def depthBound (text : Octets) : Nat := 40 * (text.length + 10)

/-- The next line of commands of a script; none if the script is at its end. -/
def readLine (s : Source) : Except Fault (Option Command × Source) :=
  (readList (depthBound s.rest) .line none).run { s with pushed := none }

def Source.ofText (text : Octets) (line : Nat) (documents : List (Nat × Word)) : Source :=
  ⟨text, line, none, [], documents, documents.length⟩

end Script
end ApiTypes
