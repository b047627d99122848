import ApiTypes.Text
/-!
# Double-precision numbers, exactly

A finite double is a sign, a whole number below 2^53 and a power of two.  There are no opaque
operations: a product or a quotient is computed exactly as a fraction and then rounded once by
`Magnitude.nearest?`, to the nearest double, a tie to the one with the even mantissa.
-/
namespace ApiTypes

/-- The size of a finite double, `mantissa * 2 ^ exponent`.  Rounding gives the one form with
`mantissa < 2^53` and either `2^52 ≤ mantissa` or the least exponent. -/
structure Magnitude where
  mantissa : Nat
  exponent : Int
deriving DecidableEq

structure Double where
  negative : Bool
  size : Magnitude
deriving DecidableEq

def twoTo (n : Nat) : Nat := Nat.pow 2 n

def tenTo (n : Nat) : Nat := Nat.pow 10 n

namespace Magnitude

def leastExponent : Int := -1074

def greatestExponent : Int := 971

def zero : Magnitude := ⟨0, leastExponent⟩

/-- The whole number nearest to `num / den`, of two equally near ones the even one. -/
def roundHalfEven (num den : Nat) : Nat :=
  let q := num / den
  let r := num % den
  if 2 * r < den then q else if den < 2 * r then q + 1 else q + q % 2

/-- `num / den` divided by `2 ^ e`, as numerator and denominator. -/
def scaled (num den : Nat) (e : Int) : Nat × Nat :=
  (num * twoTo (-e).toNat, den * twoTo e.toNat)

/-- The exponent at which `num / den` has a mantissa of 53 bits, or the least exponent. -/
def exponentOf (num den : Nat) : Int :=
  let guess : Int := Int.ofNat num.log2 - Int.ofNat den.log2 - 52
  let (n, d) := scaled num den guess
  max leastExponent (if n / d < twoTo 52 then guess - 1 else guess)

/-- The double nearest to `num / den`, none if it is beyond the greatest one. -/
def nearest? (num den : Nat) : Option Magnitude :=
  if num = 0 then some zero
  else
    let e := exponentOf num den
    let (n, d) := scaled num den e
    let m := roundHalfEven n d
    let size : Magnitude := if m = twoTo 53 then ⟨twoTo 52, e + 1⟩ else ⟨m, e⟩
    if size.exponent ≤ greatestExponent then some size else none

def fraction (a : Magnitude) : Nat × Nat :=
  (a.mantissa * twoTo a.exponent.toNat, twoTo (-a.exponent).toNat)

def mul? (a b : Magnitude) : Option Magnitude :=
  nearest? (a.fraction.1 * b.fraction.1) (a.fraction.2 * b.fraction.2)

def div? (a b : Magnitude) : Option Magnitude :=
  nearest? (a.fraction.1 * b.fraction.2) (a.fraction.2 * b.fraction.1)

def ofNat? (n : Nat) : Option Magnitude := nearest? n 1

def tenToThe? (k : Nat) : Option Magnitude := nearest? (tenTo k) 1

end Magnitude
end ApiTypes
