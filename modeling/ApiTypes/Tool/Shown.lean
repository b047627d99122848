import ApiTypes.Tool
/-!
# Arguments in a tool's remarks

A name in a remark stands there as it is if a shell would read it as one word.  Any other name is
quoted for a shell (`shownName`).  A set of characters is always quoted, with escapes like those
that its own spelling allows (`shownSet`).
-/
namespace ApiTypes
namespace Tool

def isPrinting (c : Char) : Bool := 32 ≤ c.toNat && c.toNat < 127

def threeOctal (n : Nat) : Octets :=
  let digit (k : Nat) : Char := Char.ofNat ('0'.toNat + k % 8)
  [digit (n / 64), digit (n / 8), digit n]

def escapeLetter? : Char → Option Char
  | '\x07' => some 'a'
  | '\x08' => some 'b'
  | '\t' => some 't'
  | '\n' => some 'n'
  | '\x0b' => some 'v'
  | '\x0c' => some 'f'
  | '\r' => some 'r'
  | _ => none

def escaped (c : Char) : Octets :=
  match escapeLetter? c with
  | some letter => ['\\', letter]
  | none => if isPrinting c then [c] else '\\' :: threeOctal c.toNat

def shownSet (t : Octets) : Octets :=
  '\'' :: t.flatMap (fun c => if c = '\'' ∨ c = '\\' then ['\\', c] else escaped c) ++ ['\'']

def isActive (c : Char) : Bool := " !\"$&()*;<=>?[^`|':\\".toList.contains c

def isPlainName : Octets → Bool
  | [] => false
  | ['\x7b'] => false
  | ['\x7d'] => false
  | c :: rest =>
    c ≠ '#' && c ≠ '~' && (c :: rest).all (fun c => isPrinting c && !isActive c)

/-- A name in single quotes; what does not print stands outside of them with its escape.
`escaping` holds while the quotes are of the kind with escapes. -/
def shellQuoted : (escaping : Bool) → Octets → Octets
  | _, [] => []
  | escaping, c :: rest =>
    if isPrinting c then
      let joint : Octets := if escaping then "''" else []
      if c = '\'' then joint ++ "'\\''" ++ shellQuoted false rest
      else joint ++ c :: shellQuoted false rest
    else
      let joint : Octets := if escaping then [] else "'$'"
      joint ++ escaped c ++ shellQuoted true rest

def isSteady (c : Char) : Bool := c.isAlphanum || "%+,-./:]_' ".toList.contains c

def fitsDoubleQuotes : Octets → Bool
  | [] => false
  | c :: rest =>
    (c :: rest).contains '\'' && (isSteady c || c = '#' || c = '~') && rest.all isSteady

def shownName (t : Octets) : Octets :=
  if isPlainName t then t
  else if fitsDoubleQuotes t then '"' :: t ++ ['"']
  else '\'' :: shellQuoted false t ++ ['\'']

end Tool
end ApiTypes
