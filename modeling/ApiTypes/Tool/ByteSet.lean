import ApiTypes.Tool.Shown
/-!
# How sets of bytes are spelled

A set is spelled byte by byte, with escapes.  A range of bytes, a class with a name, the bytes
equivalent to one, and a byte to be repeated have spellings of their own, all but the first in
brackets.  The order of the bytes counts, so a set is a list of elements, each of which stands for
some bytes in order.
-/
namespace ApiTypes
namespace ByteSet

/-- A byte of a spelling, and whether it was written with an escape. -/
structure Letter where
  char : Char
  escaped : Bool
deriving DecidableEq

inductive Element where
  | single (c : Char)
  | range (low high : Char)
  | named (name : Octets)
  | equivalent (c : Char)
  /-- A byte repeated; without a number, as often as is needed. -/
  | repeated (c : Char) (times : Option Nat)
deriving DecidableEq

/-! ## Escapes -/

def octalValue? (c : Char) : Option Nat :=
  if '0' ≤ c ∧ c ≤ '7' then some (c.toNat - '0'.toNat) else none

/-- The number of up to `limit` octal digits, as long as it stays a byte, and what follows. -/
def readOctal : (limit value : Nat) → Octets → Nat × Octets
  | limit + 1, value, c :: rest =>
    match octalValue? c with
    | some digit =>
      if value * 8 + digit < 256 then readOctal limit (value * 8 + digit) rest
      else (value, c :: rest)
    | none => (value, c :: rest)
  | _, value, rest => (value, rest)

def controlLetter? : Char → Option Char
  | 'a' => some '\x07'
  | 'b' => some '\x08'
  | 't' => some '\t'
  | 'n' => some '\n'
  | 'v' => some '\x0b'
  | 'f' => some '\x0c'
  | 'r' => some '\r'
  | '\\' => some '\\'
  | _ => none

/-- The letters of a spelling; `steps` is at least its length. -/
def letters : (steps : Nat) → Octets → List Letter
  | 0, _ => []
  | _, [] => []
  | _, ['\\'] => [⟨'\\', false⟩]
  | steps + 1, '\\' :: c :: rest =>
    if (octalValue? c).isSome then
      let (value, rest) := readOctal 3 0 (c :: rest)
      ⟨Char.ofNat value, true⟩ :: letters steps rest
    else ⟨(controlLetter? c).getD c, true⟩ :: letters steps rest
  | steps + 1, c :: rest => ⟨c, false⟩ :: letters steps rest

/-- What is said of escapes that are doubtful; `steps` is at least the length of the spelling. -/
def warnings : (steps : Nat) → Octets → List Octets
  | 0, _ => []
  | _, ['\\'] => ["warning: an unescaped backslash at end of string is not portable"]
  | steps + 1, '\\' :: a :: b :: c :: rest =>
    match octalValue? a, octalValue? b, octalValue? c with
    | some x, some y, some z =>
      if 256 ≤ x * 64 + y * 8 + z then
        ("warning: the ambiguous octal escape \\" ++ [a, b, c] ++ " is being\n\tinterpreted as the "
          ++ "2-byte sequence \\0" ++ [a, b] ++ ", " ++ [c]) :: warnings steps (c :: rest)
      else warnings steps rest
    | some _, some _, none => warnings steps (c :: rest)
    | some _, none, _ => warnings steps (b :: c :: rest)
    | none, _, _ => warnings steps (b :: c :: rest)
  | steps + 1, '\\' :: _ :: rest => warnings steps rest
  | steps + 1, _ :: rest => warnings steps rest
  | _, [] => []

/-! ## Classes -/

def between (low high : Char) : Octets :=
  (List.range (high.toNat + 1 - low.toNat)).map (fun i => Char.ofNat (low.toNat + i))

def classes : List (Octets × List (Char × Char)) :=
  [("alnum", [('0', '9'), ('A', 'Z'), ('a', 'z')]), ("alpha", [('A', 'Z'), ('a', 'z')]),
   ("blank", [('\t', '\t'), (' ', ' ')]), ("cntrl", [('\x00', '\x1f'), ('\x7f', '\x7f')]),
   ("digit", [('0', '9')]), ("graph", [('!', '~')]), ("lower", [('a', 'z')]),
   ("print", [(' ', '~')]), ("punct", [('!', '/'), (':', '@'), ('[', '\x60'), ('\x7b', '~')]),
   ("space", [('\t', '\r'), (' ', ' ')]), ("upper", [('A', 'Z')]),
   ("xdigit", [('0', '9'), ('A', 'F'), ('a', 'f')])]

def classBytes (name : Octets) : Octets :=
  match classes.find? (fun k => k.1 = name) with
  | some k => k.2.flatMap (fun r => between r.1 r.2)
  | none => []

/-- The most that a byte is repeated; more than all bytes there are makes no difference. -/
def repeatLimit : Nat := 100000

def Element.bytes : Element → Octets
  | .single c => [c]
  | .range low high => between low high
  | .named name => classBytes name
  | .equivalent c => [c]
  | .repeated _ none => []
  | .repeated c (some n) => List.replicate (min n repeatLimit) c

/-! ## Faults -/

def shownByte (c : Char) : Octets :=
  if Tool.isPrinting c then [c] else '\\' :: Tool.threeOctal c.toNat

def shownBytes (o : Octets) : Octets :=
  o.flatMap (fun c => if c = '\\' then ['\\', '\\'] else Tool.escaped c)

/-- Why sets are refused: first what can be wrong with the spelling of one, then what can be wrong
with both together. -/
inductive SetFault where
  | emptyClass
  | unknownClass (name : Octets)
  | emptyEquivalence
  | wideEquivalence (name : Octets)
  | badCount (digits : Octets)
  | reversedRange (low high : Char)
  | openRepeatFirst
  | severalOpenRepeats
  | openRepeatUnmatched
  | equivalenceSecond
  | classSecond
  | misaligned
  | emptySecond
  | classAtEnd
  | complementSpread
deriving DecidableEq

def SetFault.message : SetFault → Octets
  | .emptyClass => "missing character class name '[::]'"
  | .unknownClass name => "invalid character class " ++ Tool.shownSet (shownBytes name)
  | .emptyEquivalence => "missing equivalence class character '[==]'"
  | .wideEquivalence name =>
    shownBytes name ++ ": equivalence class operand must be a single character"
  | .badCount digits =>
    "invalid repeat count " ++ Tool.shownSet (shownBytes digits) ++ " in [c*n] construct"
  | .reversedRange low high =>
    "range-endpoints of '" ++ shownByte low ++ "-" ++ shownByte high
      ++ "' are in reverse collating sequence order"
  | .openRepeatFirst => "the [c*] repeat construct may not appear in string1"
  | .severalOpenRepeats => "only one [c*] repeat construct may appear in string2"
  | .openRepeatUnmatched => "the [c*] construct may appear in string2 only when translating"
  | .equivalenceSecond => "[=c=] expressions may not appear in string2 when translating"
  | .classSecond =>
    "when translating, the only character classes that may appear in\n"
      ++ "string2 are 'upper' and 'lower'"
  | .misaligned => "misaligned [:upper:] and/or [:lower:] construct"
  | .emptySecond => "when not truncating set1, string2 must be non-empty"
  | .classAtEnd =>
    "when translating with string1 longer than string2,\n"
      ++ "the latter string must not end with a character class"
  | .complementSpread =>
    "when translating with complemented character classes,\n"
      ++ "string2 must map all characters in the domain to one"

/-! ## Elements -/

def Letter.isPlain (l : Letter) (c : Char) : Bool := l.char = c && !l.escaped

/-- What stands before a plain `mark` and the bracket behind it, and what follows. -/
def upToClosing (mark : Char) : List Letter → Option (List Letter × List Letter)
  | a :: b :: rest =>
    if a.isPlain mark && b.isPlain ']' then some ([], rest)
    else (upToClosing mark (b :: rest)).map (fun r => (a :: r.1, r.2))
  | _ => none

def isRepeatTail : List Letter → Bool
  | star :: rest =>
    star.isPlain '*' && ((rest.dropWhile (fun l => l.char.isDigit)).head?.any (·.isPlain ']'))
  | [] => false

/-- The number in a repetition: octal if it begins with a zero. -/
def repeatCount? (digits : Octets) : Option Nat :=
  let bare := digits.dropWhile (fun c => c = ' ' || (9 ≤ c.toNat && c.toNat ≤ 13))
  let bare := if bare.head? = some '+' then bare.tail else bare
  let base := if digits.head? = some '0' then 8 else 10
  let value (c : Char) : Option Nat :=
    if c.isDigit ∧ c.toNat - '0'.toNat < base then some (c.toNat - '0'.toNat) else none
  if bare.isEmpty then none
  else
    let n := bare.foldlM (fun n c => (value c).map (n * base + ·)) 0
    n.bind (fun n => if n < 0x8000000000000000 then some n else none)

/-- A repetition in brackets: its byte and number, and what follows; none if there is none. -/
def readRepeat : List Letter → Except SetFault (Option (Element × List Letter))
  | c :: star :: rest =>
    let inner := rest.takeWhile (fun l => !l.escaped && l.char ≠ ']')
    match star.isPlain '*', rest.drop inner.length with
    | true, close :: behind =>
      let digits := inner.map (·.char)
      if close.escaped then .ok none
      else if digits.isEmpty then .ok (some (.repeated c.char none, behind))
      else
        match repeatCount? digits with
        | some 0 => .ok (some (.repeated c.char none, behind))
        | some n => .ok (some (.repeated c.char (some n), behind))
        | none => .error (.badCount digits)
    | _, _ => .ok none
  | _ => .ok none

/-- A class or an equivalence in brackets, and what follows; none if there is none.  `mark` is the
character behind the bracket. -/
def readNamed (mark : Char) (rest : List Letter) :
    Except SetFault (Option (Element × List Letter)) :=
  match upToClosing mark rest with
  | none => .ok none
  | some (inner, behind) =>
    let name := inner.map (·.char)
    if mark = ':' then
      if name.isEmpty then .error .emptyClass
      else if classes.any (fun k => k.1 = name) then .ok (some (.named name, behind))
      else if isRepeatTail rest then .ok none
      else .error (.unknownClass name)
    else
      match name with
      | [] => .error .emptyEquivalence
      | [c] => .ok (some (.equivalent c, behind))
      | _ =>
        if isRepeatTail rest then .ok none
        else .error (.wideEquivalence name)

def readBracket (rest : List Letter) : Except SetFault (Option (Element × List Letter)) := do
  match rest with
  | mark :: inner =>
    if mark.isPlain ':' || mark.isPlain '=' then
      match ← readNamed mark.char inner with
      | some found => return some found
      | none => readRepeat rest
    else readRepeat rest
  | [] => return none

def readElements : (steps : Nat) → List Letter → Except SetFault (List Element)
  | 0, _ => .ok []
  | steps + 1, a :: b :: c :: rest => do
    let bracket ← if a.isPlain '[' then readBracket (b :: c :: rest) else pure none
    match bracket with
    | some (element, behind) => return element :: (← readElements steps behind)
    | none =>
      if b.isPlain '-' then
        if c.char < a.char then throw (.reversedRange a.char c.char)
        return .range a.char c.char :: (← readElements steps rest)
      else return .single a.char :: (← readElements steps (b :: c :: rest))
  | _ + 1, rest => .ok (rest.map (fun l => .single l.char))

def parse (t : Octets) : Except SetFault (List Element) :=
  let ls := letters t.length t
  readElements (ls.length + 1) ls

def complement (bytes : Octets) : Octets :=
  (between '\x00' '\xff').filter (fun c => !bytes.contains c)

def bytesOf (elements : List Element) : Octets := elements.flatMap Element.bytes

end ByteSet
end ApiTypes
