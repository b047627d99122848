import ApiTypes.Double
/-!
# The shortest decimal of a double

The decimals that read back as a given double fill an interval around it, its ends included exactly
if the mantissa is even.  For one, two, … seventeen digits the two neighbours of the value on that
decimal grid are tried; the first grid with a hit wins, of two hits the nearer one, of two equally
near ones the even one.
-/
namespace ApiTypes

/-- A positive decimal `d₁.d₂d₃…` times a power of ten, its digits without zeros at the end. -/
structure Decimal where
  digits : Nat
  exponent : Int
deriving DecidableEq

namespace Magnitude

/-- Far enough to make every positive double a large whole number. -/
def farShift : Nat := 400

/-- The power of ten of the first digit of `num / den`, for a positive double. -/
def decimalExponent (num den : Nat) : Int :=
  Int.ofNat (Nat.toDigits 10 (num * tenTo farShift / den)).length - 1 - Int.ofNat farShift

/-- The interval of the numbers that read back as the double, over one denominator:
lower end, value, upper end, denominator. -/
def readBack (a : Magnitude) : Nat × Nat × Nat × Nat :=
  let below := if a.mantissa = twoTo 52 ∧ leastExponent < a.exponent then 1 else 2
  let unit := twoTo a.exponent.toNat
  ((4 * a.mantissa - below) * unit, 4 * a.mantissa * unit, (4 * a.mantissa + 2) * unit,
    4 * twoTo (-a.exponent).toNat)

/-- The grid point with `count` digits that reads back, if there is one.  The grid's unit is
`10 ^ p`; ends and value are brought to one denominator with it. -/
def onGrid? (a : Magnitude) (top : Int) (count : Nat) : Option Nat :=
  let (low, value, high, den) := a.readBack
  let p : Int := top - Int.ofNat count + 1
  let up := tenTo (-p).toNat
  let unit := den * tenTo p.toNat
  let inside (d : Nat) : Bool :=
    if a.mantissa % 2 = 0 then low * up ≤ d * unit && d * unit ≤ high * up
    else low * up < d * unit && d * unit < high * up
  let d := value * up / unit
  let rest := value * up % unit
  match inside d, inside (d + 1) with
  | false, false => none
  | true, false => some d
  | false, true => some (d + 1)
  | true, true => some (if 2 * rest < unit then d else if unit < 2 * rest then d + 1 else d + d % 2)

/-- Zeros at the end of a number taken off, at most `limit` of them. -/
def stripZeros : (limit : Nat) → Nat → Nat
  | 0, d => d
  | limit + 1, d => if d % 10 = 0 then stripZeros limit (d / 10) else d

/-- The first grid with a hit, from `count` digits on; seventeen digits always read back. -/
def shortestFrom (a : Magnitude) (top : Int) : (left count : Nat) → Decimal
  | 0, _ => ⟨0, 0⟩
  | left + 1, count =>
    match onGrid? a top count with
    | some d => ⟨stripZeros count d, top + (if d = tenTo count then 1 else 0)⟩
    | none => shortestFrom a top left (count + 1)

def shortest (a : Magnitude) : Decimal :=
  shortestFrom a (decimalExponent a.fraction.1 a.fraction.2) 17 1

end Magnitude

/-! ## Layout -/

/-- How a decimal is laid out: with powers of ten from `plainFrom` to `plainTo` it is written in
full, and otherwise with an exponent. -/
structure DecimalLayout where
  plainFrom : Int
  plainTo : Int

namespace DecimalLayout

def plain (d : Decimal) : Text :=
  let digits := Text.ofNat d.digits
  if d.exponent < 0 then "0." ++ List.replicate (-d.exponent - 1).toNat '0' ++ digits
  else
    let whole := d.exponent.toNat + 1
    let front := digits.take whole ++ List.replicate (whole - digits.length) '0'
    let back := digits.drop whole
    front ++ ['.'] ++ (if back.isEmpty then ['0'] else back)

def scientific (d : Decimal) : Text :=
  let mantissa := match Text.ofNat d.digits with
    | [] => []
    | [c] => [c]
    | c :: rest => c :: '.' :: rest
  let sign := if d.exponent < 0 then '-' else '+'
  mantissa ++ ['e', sign] ++ Text.ofNat d.exponent.natAbs

def render (layout : DecimalLayout) (d : Decimal) : Text :=
  if layout.plainFrom ≤ d.exponent ∧ d.exponent ≤ layout.plainTo then plain d else scientific d

end DecimalLayout

/-- The text of a double: zero keeps its sign, like every other number. -/
def Double.render (layout : DecimalLayout) (x : Double) : Text :=
  let size : Text := if x.size.mantissa = 0 then "0.0" else layout.render x.size.shortest
  if x.negative then '-' :: size else size

end ApiTypes
