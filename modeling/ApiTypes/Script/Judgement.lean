import ApiTypes.Disk
import ApiTypes.Script.Arithmetic
import ApiTypes.Text.Octets
/-!
# Tests

A test asks about texts, numbers and files, and tests are joined by signs for not, and, or.  What a
sign means depends on what stands around it: a sign that could be an operand is one where it has to
be, and with three operands the one in the middle decides.
-/
namespace ApiTypes
namespace Script

inductive TestSign where
  | operand
  | bang
  | conjunction
  | disjunction
  | openParen
  | closeParen
  | unary (letter : Char)
  | binary (name : Octets)
  | nothing
deriving DecidableEq

namespace TestSign

def binaryNames : List Octets :=
  ["=", "!=", "<", ">", "-eq", "-ne", "-gt", "-ge", "-lt", "-le", "-nt", "-ot", "-ef"]

def unaryLetters : List Char := "rwxefdcbpugkstznhLOGS".toList

def ofText (t : Octets) : TestSign :=
  if binaryNames.contains t then .binary t
  else
    match t with
    | ['!'] => .bang
    | ['('] => .openParen
    | [')'] => .closeParen
    | ['-', 'a'] => .conjunction
    | ['-', 'o'] => .disjunction
    | ['-', c] => if unaryLetters.contains c then .unary c else .operand
    | _ => .operand

def isBinary : TestSign → Bool
  | .binary _ => true
  | _ => false

def ofFirst : List Octets → TestSign
  | [] => .nothing
  | t :: rest =>
    match ofText t, rest with
    | .unary _, [] => .operand
    | .unary c, next :: _ :: _ => if (ofText next).isBinary then .operand else .unary c
    | .openParen, [] => .operand
    | sign, _ => sign

end TestSign

/-- A test at its place among the texts, which stops with words. -/
abbrev Judge := StateT (List Octets) (Except Octets)

namespace Judge

def wholeNumber? (t : Octets) : Option Int :=
  let digits := t.dropWhile isNumberBlank
  let (negative, digits) : Bool × Octets := match digits with
    | '-' :: rest => (true, rest)
    | '+' :: rest => (false, rest)
    | _ => (false, digits)
  let (found, rest) := takeDigits 10 digits
  let n := Int.ofNat (digitsValue 10 found)
  let n := if negative then -n else n
  if found.isEmpty || !rest.all isNumberBlank || clamped n ≠ n then none else some n

def wholeNumber (t : Octets) : Except Octets Int :=
  match wholeNumber? t with
  | some n => .ok n
  | none => .error ("Illegal number: " ++ t)

def askFile (d : Disk) (letter : Char) (t : Octets) : Bool :=
  match d.entryAt (Path.ofText t.toText) with
  | .error _ => false
  | .ok entry =>
    let isDevice : Bool := match entry with
      | .sink => true
      | .stream _ => true
      | _ => false
    let isProgram : Bool := match d.walk (d.start (Path.ofText t.toText))
        (Path.ofText t.toText).names with
      | .ok place => (place.dropLast.getLast? = some "bin".toList)
      | .error _ => false
    match letter with
    | 'f' => !isDevice && entry ≠ .directory
    | 'd' => entry = .directory
    | 'c' => isDevice
    | 'x' => entry = .directory || isProgram
    | 's' => match entry with
      | .file contents => !contents.isEmpty || isProgram
      | .directory => true
      | _ => false
    | _ => ['e', 'r', 'w', 'O', 'G'].contains letter

def askOne (d : Disk) (letter : Char) (t : Octets) : Except Octets Bool := do
  match letter with
  | 'z' => return t.isEmpty
  | 'n' => return !t.isEmpty
  | 't' =>
    let _ ← wholeNumber t
    return false
  | _ => return askFile d letter t

def askTwo (d : Disk) (name a b : Octets) : Except Octets Bool := do
  let before : Octets → Octets → Bool := fun x y => decide (x < y)
  if name = ['='] then return a = b
  else if name = ['!', '='] then return a ≠ b
  else if name = ['<'] then return before a b
  else if name = ['>'] then return before b a
  else if ["-nt".toList, "-ot".toList].contains name then return false
  else if name = "-ef".toList then
    let placeOf (t : Octets) : Option Place :=
      (d.walk (d.start (Path.ofText t.toText)) (Path.ofText t.toText).names).toOption
    return (placeOf a).isSome && placeOf a = placeOf b
  else
    let x ← wholeNumber a
    let y ← wholeNumber b
    if name = "-eq".toList then return x = y
    else if name = "-ne".toList then return x ≠ y
    else if name = "-gt".toList then return decide (y < x)
    else if name = "-ge".toList then return decide (y ≤ x)
    else if name = "-lt".toList then return decide (x < y)
    else return decide (x ≤ y)

def advance : Judge Unit := modify List.tail

def next : Judge TestSign := do return TestSign.ofFirst (← get).tail

mutual

def any (d : Disk) : (fuel : Nat) → TestSign → Judge Bool
  | 0, _ => return false
  | fuel + 1, sign => do
    let first ← every d fuel sign
    if (← next) = .disjunction then
      modify (·.drop 2)
      let later ← any d fuel (TestSign.ofFirst (← get))
      return first || later
    else return first

def every (d : Disk) : (fuel : Nat) → TestSign → Judge Bool
  | 0, _ => return false
  | fuel + 1, sign => do
    let first ← negated d fuel sign
    if (← next) = .conjunction then
      modify (·.drop 2)
      let later ← every d fuel (TestSign.ofFirst (← get))
      return first && later
    else return first

def negated (d : Disk) : (fuel : Nat) → TestSign → Judge Bool
  | 0, _ => return false
  | fuel + 1, sign => do
    if sign = .bang then
      let sign ← next
      if sign ≠ .nothing then advance
      return !(← negated d fuel sign)
    else single d fuel sign

def single (d : Disk) : (fuel : Nat) → TestSign → Judge Bool
  | 0, _ => return false
  | fuel + 1, sign => do
    match sign with
    | .nothing => return false
    | .openParen =>
      advance
      let sign := TestSign.ofFirst (← get)
      if sign = .closeParen then return false
      else
        let holds ← any d fuel sign
        advance
        if TestSign.ofFirst (← get) = .closeParen then return holds
        else throw ("closing paren expected" : Octets)
    | .unary letter =>
      advance
      match ← get with
      | [] => throw ('-' :: letter :: ": argument expected".toList)
      | t :: _ => askOne d letter t
    | _ =>
      match ← next with
      | .binary name =>
        let first := ((← get).head?).getD []
        advance
        advance
        match ← get with
        | [] => throw (name ++ ": argument expected")
        | second :: _ => askTwo d name first second
      | _ => return !((← get).head?.getD []).isEmpty

end

/-- A test from its first sign on; nothing may be left behind it. -/
def whole (d : Disk) (args : List Octets) (sign : TestSign) : Except Octets Bool := do
  let (holds, rest) ← StateT.run (any d (4 * args.length + 4) sign) args
  match rest with
  | t :: _ :: _ => throw (t ++ ": unexpected operator".toList)
  | _ => return holds

/-- The answer to a whole test; `flipped` tells of signs for not in front of it, and `rounds` bounds
their number. -/
def answer (d : Disk) : (rounds : Nat) → (flipped : Bool) → List Octets → Except Octets Bool
  | 0, _, _ => .ok false
  | rounds + 1, flipped, args =>
    let few : Bool := args.length = 3 || args.length = 4
    let middle : Bool := args.length = 3 && ((args[1]?).map TestSign.ofText).any TestSign.isBinary
    let flip (r : Except Octets Bool) : Except Octets Bool := r.map (· != flipped)
    if args.isEmpty then flip (.ok false)
    else if middle then flip (whole d args .operand)
    else if few && args.head? = some ['('] && args.getLast? = some [')'] then
      let inner := args.tail.dropLast
      flip (whole d inner (TestSign.ofFirst inner))
    else if few && args.head? = some ['!'] then answer d rounds true args.tail
    else flip (whole d args (TestSign.ofFirst args))

end Judge

def judge (d : Disk) (args : List Octets) : Except Octets Bool :=
  Judge.answer d (args.length + 1) false args

end Script
end ApiTypes
