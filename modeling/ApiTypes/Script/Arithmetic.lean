import ApiTypes.Script.Source
/-!
# Numeric expressions

Expressions are over whole numbers of 64 bits, which wrap around.  A name stands for the number its
variable spells, and may be assigned to; what a decided choice leaves out is read but neither
computed nor assigned.
-/
namespace ApiTypes
namespace Script

inductive Operation where
  | times
  | divide
  | remainder
  | plus
  | minus
  | shiftLeft
  | shiftRight
  | less
  | lessEqual
  | greater
  | greaterEqual
  | equal
  | unequal
  | bitAnd
  | bitXor
  | bitOr
deriving DecidableEq

/-- How loosely an operation binds. -/
def Operation.level : Operation → Nat
  | .times | .divide | .remainder => 0
  | .plus | .minus => 1
  | .shiftLeft | .shiftRight => 2
  | .less | .lessEqual | .greater | .greaterEqual => 3
  | .equal | .unequal => 4
  | .bitAnd => 5
  | .bitXor => 6
  | .bitOr => 7

inductive Lexeme where
  | number (n : Int64)
  | name (t : Octets)
  | operation (o : Operation)
  /-- An assignment, of the outcome of an operation if there is one. -/
  | assign (o : Option Operation)
  | both
  | either
  | bang
  | tilde
  | openParen
  | closeParen
  | question
  | colon
  | unknown
deriving DecidableEq

inductive ExpressionFault where
  | expected (what : Octets)
  | divisionByZero
  | badNumber (t : Octets)
  | readOnly (name : Octets)

/-! ## Numbers -/

def digitValue? (c : Char) : Option Nat :=
  if c.isDigit then some (c.toNat - '0'.toNat)
  else if 'a' ≤ c ∧ c ≤ 'z' then some (c.toNat - 'a'.toNat + 10)
  else if 'A' ≤ c ∧ c ≤ 'Z' then some (c.toNat - 'A'.toNat + 10)
  else none

def takeDigits (base : Nat) (t : Octets) : Octets × Octets :=
  let digits := t.takeWhile (fun c => (digitValue? c).any (· < base))
  (digits, t.drop digits.length)

def digitsValue (base : Nat) (digits : Octets) : Nat :=
  digits.foldl (fun n c => n * base + (digitValue? c).getD 0) 0

/-- A number without a sign at the front of a text, and what follows; a zero in front means base
eight, and one with an `x` base sixteen. -/
def takeNatural (t : Octets) : Nat × Octets :=
  match t with
  | '0' :: x :: c :: rest =>
    if (x = 'x' || x = 'X') && (digitValue? c).any (· < 16) then
      let (digits, rest) := takeDigits 16 (c :: rest)
      (digitsValue 16 digits, rest)
    else
      let (digits, rest) := takeDigits 8 t
      (digitsValue 8 digits, rest)
  | '0' :: _ =>
    let (digits, rest) := takeDigits 8 t
    (digitsValue 8 digits, rest)
  | _ =>
    let (digits, rest) := takeDigits 10 t
    (digitsValue 10 digits, rest)

def isNumberBlank (c : Char) : Bool := c = ' ' || (9 ≤ c.toNat && c.toNat ≤ 13)

def takeInteger (t : Octets) : Option (Int × Octets) :=
  let t := t.dropWhile isNumberBlank
  let (negative, digits) : Bool × Octets :=
    match t with
    | '-' :: rest => (true, rest)
    | '+' :: rest => (false, rest)
    | _ => (false, t)
  if digits.head?.any Char.isDigit then
    let (n, rest) := takeNatural digits
    some (if negative then -Int.ofNat n else Int.ofNat n, rest)
  else none

def greatest : Int := 0x7FFFFFFFFFFFFFFF

def least : Int := -0x8000000000000000

def clamped (n : Int) : Int := max least (min greatest n)

/-- The number that a variable spells; an empty one spells zero. -/
def variableValue (t : Octets) : Except ExpressionFault Int64 :=
  match takeInteger t with
  | some (n, rest) =>
    if rest.all isNumberBlank && clamped n = n then .ok (Int64.ofInt n) else .error (.badNumber t)
  | none => if t.all isNumberBlank then .ok 0 else .error (.badNumber t)

/-! ## Lexemes -/

def takeSign : Octets → Lexeme × Octets
  | '<' :: '<' :: '=' :: rest => (.assign (some .shiftLeft), rest)
  | '>' :: '>' :: '=' :: rest => (.assign (some .shiftRight), rest)
  | '<' :: '<' :: rest => (.operation .shiftLeft, rest)
  | '>' :: '>' :: rest => (.operation .shiftRight, rest)
  | '<' :: '=' :: rest => (.operation .lessEqual, rest)
  | '>' :: '=' :: rest => (.operation .greaterEqual, rest)
  | '=' :: '=' :: rest => (.operation .equal, rest)
  | '!' :: '=' :: rest => (.operation .unequal, rest)
  | '&' :: '&' :: rest => (.both, rest)
  | '|' :: '|' :: rest => (.either, rest)
  | '*' :: '=' :: rest => (.assign (some .times), rest)
  | '/' :: '=' :: rest => (.assign (some .divide), rest)
  | '%' :: '=' :: rest => (.assign (some .remainder), rest)
  | '+' :: '=' :: rest => (.assign (some .plus), rest)
  | '-' :: '=' :: rest => (.assign (some .minus), rest)
  | '&' :: '=' :: rest => (.assign (some .bitAnd), rest)
  | '^' :: '=' :: rest => (.assign (some .bitXor), rest)
  | '|' :: '=' :: rest => (.assign (some .bitOr), rest)
  | '<' :: rest => (.operation .less, rest)
  | '>' :: rest => (.operation .greater, rest)
  | '=' :: rest => (.assign none, rest)
  | '!' :: rest => (.bang, rest)
  | '&' :: rest => (.operation .bitAnd, rest)
  | '|' :: rest => (.operation .bitOr, rest)
  | '*' :: rest => (.operation .times, rest)
  | '/' :: rest => (.operation .divide, rest)
  | '%' :: rest => (.operation .remainder, rest)
  | '+' :: rest => (.operation .plus, rest)
  | '-' :: rest => (.operation .minus, rest)
  | '^' :: rest => (.operation .bitXor, rest)
  | '~' :: rest => (.tilde, rest)
  | '(' :: rest => (.openParen, rest)
  | ')' :: rest => (.closeParen, rest)
  | '?' :: rest => (.question, rest)
  | ':' :: rest => (.colon, rest)
  | rest => (.unknown, rest.tail)

/-- The lexemes of a text; `steps` is at least its length. -/
def lexemes : (steps : Nat) → Octets → List Lexeme
  | 0, _ => []
  | _, [] => []
  | steps + 1, c :: rest =>
    if c = ' ' || c = '\t' || c = '\n' then lexemes steps rest
    else if c.isDigit then
      let (n, rest) := takeNatural (c :: rest)
      .number (Int64.ofInt (clamped n)) :: lexemes steps rest
    else if isNameStart c then
      let name := (c :: rest).takeWhile isNameChar
      .name name :: lexemes steps ((c :: rest).drop name.length)
    else
      let (sign, rest) := takeSign (c :: rest)
      sign :: lexemes steps rest

/-! ## Values -/

/-- What an expression is read from, and what has been assigned so far. -/
structure Calculation where
  rest : List Lexeme
  lookup : Octets → Octets
  isFixed : Octets → Bool
  /-- What has been assigned, the last first. -/
  assigned : List (Octets × Int64)

abbrev Calculator := StateT Calculation (Except ExpressionFault)

namespace Calculator

def peek : Calculator (Option Lexeme) := do return (← get).rest.head?

def skip : Calculator Unit := modify (fun c => { c with rest := c.rest.tail })

def valueOf (name : Octets) : Calculator Int64 := do
  let c ← get
  match c.assigned.find? (fun a => a.1 = name) with
  | some a => return a.2
  | none => variableValue (c.lookup name)

def assign (name : Octets) (n : Int64) : Calculator Unit := do
  if (← get).isFixed name then throw (.readOnly name)
  modify (fun c => { c with assigned := (name, n) :: c.assigned })

end Calculator

def flag (b : Bool) : Int64 := if b then 1 else 0

def Operation.apply (o : Operation) (a b : Int64) : Except ExpressionFault Int64 :=
  match o with
  | .times => .ok (a * b)
  | .divide => if b = 0 then .error .divisionByZero else .ok (a / b)
  | .remainder => if b = 0 then .error .divisionByZero else .ok (a % b)
  | .plus => .ok (a + b)
  | .minus => .ok (a - b)
  | .shiftLeft => .ok (a <<< b)
  | .shiftRight => .ok (a >>> b)
  | .less => .ok (flag (a < b))
  | .lessEqual => .ok (flag (a ≤ b))
  | .greater => .ok (flag (b < a))
  | .greaterEqual => .ok (flag (b ≤ a))
  | .equal => .ok (flag (a = b))
  | .unequal => .ok (flag (a ≠ b))
  | .bitAnd => .ok (a &&& b)
  | .bitXor => .ok (a ^^^ b)
  | .bitOr => .ok (a ||| b)

open Calculator in
mutual

/-- An assignment, or anything that binds tighter.  `idle` holds where nothing is computed. -/
def calculate : (fuel : Nat) → (idle : Bool) → Calculator Int64
  | 0, _ => throw (.expected "primary")
  | fuel + 1, idle => do
    match (← get).rest with
    | .name name :: .assign o :: _ =>
      skip
      skip
      let n ← calculate fuel idle
      if idle then return n
      else
        let n ← match o with
          | none => pure n
          | some o => do o.apply (← valueOf name) n
        assign name n
        return n
    | _ => calculateChoice fuel idle

def calculateChoice : (fuel : Nat) → (idle : Bool) → Calculator Int64
  | 0, _ => throw (.expected "primary")
  | fuel + 1, idle => do
    let a ← calculateEither fuel idle
    if (← peek) = some .question then
      skip
      let b ← calculate fuel (idle || a = 0)
      if (← peek) ≠ some .colon then throw (.expected "':'")
      skip
      let c ← calculateChoice fuel (idle || a ≠ 0)
      return if a ≠ 0 then b else c
    else return a

def calculateEither : (fuel : Nat) → (idle : Bool) → Calculator Int64
  | 0, _ => throw (.expected "primary")
  | fuel + 1, idle => do
    let a ← calculateBoth fuel idle
    if (← peek) = some .either then
      skip
      let b ← calculateEither fuel (idle || a ≠ 0)
      return flag (a ≠ 0 || b ≠ 0)
    else return a

def calculateBoth : (fuel : Nat) → (idle : Bool) → Calculator Int64
  | 0, _ => throw (.expected "primary")
  | fuel + 1, idle => do
    let first ← calculateUnary fuel idle
    let a ← calculateFrom fuel idle first 8
    if (← peek) = some .both then
      skip
      let b ← calculateBoth fuel (idle || a = 0)
      return flag (a ≠ 0 && b ≠ 0)
    else return a

/-- The operations behind a number that bind tighter than a level. -/
def calculateFrom : (fuel : Nat) → (idle : Bool) → Int64 → (level : Nat) → Calculator Int64
  | 0, _, _, _ => throw (.expected "primary")
  | fuel + 1, idle, a, level => do
    match ← peek with
    | some (.operation o) =>
      if o.level < level then
        skip
        let b ← calculateUnary fuel idle
        let b ← calculateFrom fuel idle b o.level
        let c ← if idle then pure b else o.apply a b
        calculateFrom fuel idle c level
      else return a
    | _ => return a

def calculateUnary : (fuel : Nat) → (idle : Bool) → Calculator Int64
  | 0, _ => throw (.expected "primary")
  | fuel + 1, idle => do
    match ← peek with
    | some (.number n) => skip; return n
    | some (.name name) => skip; if idle then return 0 else valueOf name
    | some (.operation .plus) => skip; calculateUnary fuel idle
    | some (.operation .minus) => skip; return -(← calculateUnary fuel idle)
    | some .bang => skip; return flag ((← calculateUnary fuel idle) = 0)
    | some .tilde => skip; return ~~~(← calculateUnary fuel idle)
    | some .openParen =>
      skip
      let n ← calculate fuel idle
      if (← peek) ≠ some .closeParen then throw (.expected "')'")
      skip
      return n
    | _ => throw (.expected "primary")

end

/-- The value of an expression, and what is assigned in it, in order. -/
def evaluate (lookup : Octets → Octets) (isFixed : Octets → Bool) (t : Octets) :
    Except ExpressionFault (Int64 × List (Octets × Int64)) := do
  let items := lexemes t.length t
  let start : Calculation := ⟨items, lookup, isFixed, []⟩
  let (n, c) ← (calculate (10 * items.length + 10) false).run start
  if c.rest.isEmpty then return (n, c.assigned.reverse)
  else throw (.expected "EOF")

end Script
end ApiTypes
