import ApiTypes.Json
import ApiTypes.Json.Syntax
/-!
# Reading a JSON number

Digits are gathered in a significand of 64 bits.  Once the next digit of the whole part does not
fit, it and all digits behind it only raise the exponent; digits of the fraction that do not fit are
dropped.  A number with neither fraction nor exponent whose digits all fit is an integer, except
that negative numbers below the range of 64 bits with sign, and `-0`, are doubles.

A double is the significand, rounded, times or divided by the rounded power of ten, rounded
again: two roundings, so the result may differ from the double nearest to the decimal.
-/
namespace ApiTypes
namespace Json

def significandLimit : Nat := twoTo 64

def exponentLimit : Nat := twoTo 31

def digitValue (c : Char) : Nat := c.toNat - '0'.toNat

/-- Digits appended to a number while it stays below a limit: the number, how many there were, and
the rest. -/
def takeDigits (limit : Nat) : (value count : Nat) → Text → Nat × Nat × Text
  | value, count, [] => (value, count, [])
  | value, count, c :: rest =>
    if c.isDigit ∧ value * 10 + digitValue c < limit then
      takeDigits limit (value * 10 + digitValue c) (count + 1) rest
    else (value, count, c :: rest)

/-- A significand times `10 ^ exponent`.  A power beyond `10 ^ 308` is divided off in steps of
`10 ^ 308`; after two of them a significand has become zero, so `steps` may be three.  None if the
result is beyond the greatest double. -/
def scaleByTen : (steps : Nat) → Magnitude → (exponent : Int) → Option Magnitude
  | 0, m, _ => some m
  | steps + 1, m, exponent =>
    if exponent.natAbs ≤ 308 then do
      let power ← Magnitude.tenToThe? exponent.natAbs
      if 0 ≤ exponent then m.mul? power else m.div? power
    else if m.mantissa = 0 then some m
    else if 0 ≤ exponent then none
    else do
      let power ← Magnitude.tenToThe? 308
      let smaller ← m.div? power
      scaleByTen steps smaller (exponent + 308)

def doubleOf (negative : Bool) (significand : Nat) (exponent : Int) : Reader Json := fun rest =>
  match (Magnitude.ofNat? significand).bind (scaleByTen 3 · exponent) with
  | some m => .ok (.double ⟨negative, m⟩, rest)
  | none => stopBefore .numberOutOfRange rest

def readExponent (negative : Bool) (significand : Nat) (exponent : Int) : Reader Json := fun t =>
  let (down, t) := match t with
    | '+' :: rest => (false, rest)
    | '-' :: rest => (true, rest)
    | _ => (false, t)
  match t with
  | [] => stopAt .endOfValue []
  | c :: _ =>
    if c.isDigit then
      let (value, _, rest) := takeDigits exponentLimit 0 0 t
      let total (value : Nat) : Int := if down then exponent - value else exponent + value
      match rest with
      | d :: behind =>
        if d.isDigit then
          if down ∨ significand = 0 then
            .ok (.double ⟨negative, Magnitude.zero⟩, behind.dropWhile Char.isDigit)
          else stopBefore .numberOutOfRange behind
        else doubleOf negative significand (total value) rest
      | [] => doubleOf negative significand (total value) []
    else stopAt .invalidNumber t

def readDoubleEnd (negative : Bool) (significand : Nat) (exponent : Int) : Reader Json
  | 'e' :: rest => readExponent negative significand exponent rest
  | 'E' :: rest => readExponent negative significand exponent rest
  | rest => doubleOf negative significand exponent rest

def readFraction (negative : Bool) (significand : Nat) (exponent : Int) : Reader Json := fun t =>
  match t with
  | [] => stopAt .endOfValue []
  | c :: _ =>
    if c.isDigit then
      let (value, count, rest) := takeDigits significandLimit significand 0 t
      readDoubleEnd negative value (exponent - count) (rest.dropWhile Char.isDigit)
    else stopAt .invalidNumber t

/-- An integer, or the double that stands for it if it is `-0` or too low. -/
def integerOf (negative : Bool) (n : Nat) : Reader Json := fun rest =>
  if !negative then .ok (.int n, rest)
  else if n = 0 ∨ twoTo 63 < n then doubleOf true n 0 rest
  else .ok (.int (-n), rest)

def readNumber (negative : Bool) : Reader Json
  | [] => stopAt .endOfValue []
  | c :: rest =>
    if !c.isDigit then stopAt .invalidNumber (c :: rest)
    else if c = '0' ∧ (rest.head?.map Char.isDigit).getD false then stopAt .invalidNumber rest
    else
      let (significand, _, rest) := takeDigits significandLimit 0 0 (c :: rest)
      let dropped := (rest.takeWhile Char.isDigit).length
      match rest.dropWhile Char.isDigit with
      | '.' :: behind => readFraction negative significand dropped behind
      | 'e' :: behind => readExponent negative significand dropped behind
      | 'E' :: behind => readExponent negative significand dropped behind
      | behind =>
        if dropped = 0 then integerOf negative significand behind
        else doubleOf negative significand dropped behind

end Json
end ApiTypes
