import ApiTypes.Json.Syntax
/-!
# Reading a JSON string

The reader goes through the string one character at a time and remembers what the characters just
read ask for: nothing, the letter of an escape, hexadecimal digits, or the second half of a
surrogate pair.
-/
namespace ApiTypes
namespace Json

/-- What the next character of a string has to be. -/
inductive StringState where
  | plain
  | letter
  /-- One of `left` hexadecimal digits; `value` are those before it, and `leading` is the first half
  of the pair, if one has been read. -/
  | hex (leading : Option Nat) (left value : Nat)
  /-- The backslash of the second half of a pair. -/
  | secondBackslash (leading : Nat)
  | secondLetter (leading : Nat)

def hexValue? (c : Char) : Option Nat :=
  if '0' ≤ c ∧ c ≤ '9' then some (c.toNat - '0'.toNat)
  else if 'a' ≤ c ∧ c ≤ 'f' then some (c.toNat - 'a'.toNat + 10)
  else if 'A' ≤ c ∧ c ≤ 'F' then some (c.toNat - 'A'.toNat + 10)
  else none

def escapeLetter? : Char → Option Char
  | '"' => some '"'
  | '\\' => some '\\'
  | '/' => some '/'
  | 'b' => some '\x08'
  | 'f' => some '\x0c'
  | 'n' => some '\n'
  | 'r' => some '\r'
  | 't' => some '\t'
  | _ => none

def isLeading (n : Nat) : Bool := 0xD800 ≤ n && n ≤ 0xDBFF

def isTrailing (n : Nat) : Bool := 0xDC00 ≤ n && n ≤ 0xDFFF

def pairChar (leading trailing : Nat) : Char :=
  Char.ofNat ((leading - 0xD800) * 0x400 + (trailing - 0xDC00) + 0x10000)

def hasFourBytes (t : Text) : Bool := 4 ≤ Text.byteLength (t.take 4)

/-- Reads the rest of a string, up to and including the closing quote; `done` are the characters
before, the last one first. -/
def readString : StringState → (done : Text) → Reader Text
  | _, _, [] => stopAt .endOfString []
  | .plain, done, c :: rest =>
    if c = '"' then .ok (done.reverse, rest)
    else if c = '\\' then readString .letter done rest
    else if c < ' ' then stopAt .controlCharacter (c :: rest)
    else readString .plain (c :: done) rest
  | .letter, done, c :: rest =>
    if c = 'u' then
      if hasFourBytes rest then readString (.hex none 4 0) done rest else stopAt .endOfString []
    else match escapeLetter? c with
      | some e => readString .plain (e :: done) rest
      | none => stopAt .invalidEscape (c :: rest)
  | .hex leading left value, done, c :: rest =>
    match hexValue? c with
    | none => .error ⟨.invalidEscape, Text.byteLength (c :: rest) - left⟩
    | some digit =>
      let n := value * 16 + digit
      if 1 < left then readString (.hex leading (left - 1) n) done rest
      else match leading with
        | none =>
          if isTrailing n then stopBefore .loneSurrogate rest
          else if isLeading n then readString (.secondBackslash n) done rest
          else readString .plain (Char.ofNat n :: done) rest
        | some first =>
          if isTrailing n then readString .plain (pairChar first n :: done) rest
          else stopBefore .loneSurrogate rest
  | .secondBackslash first, done, c :: rest =>
    if c = '\\' then readString (.secondLetter first) done rest
    else stopAt .unfinishedSurrogate (c :: rest)
  | .secondLetter first, done, c :: rest =>
    if c = 'u' then
      if hasFourBytes rest then readString (.hex (some first) 4 0) done rest
      else stopAt .endOfString []
    else stopAt .unfinishedSurrogate (c :: rest)

end Json
end ApiTypes
