import ApiTypes.Double
import ApiTypes.Script.Arithmetic
/-!
# Formatted text

`printf` writes its arguments as a format says, and uses the format again as long as arguments are
left.  A directive has flags, a width and a precision; where arguments are missing, a number is zero
and a text is empty.  An argument that is no number counts as the number at its front, and is
remarked on.
-/
namespace ApiTypes
namespace Script

/-! ## Escapes -/

def escapedLetter? : Char → Option Char
  | 'a' => some '\x07'
  | 'b' => some '\x08'
  | 'e' => some '\x1b'
  | 'f' => some '\x0c'
  | 'n' => some '\n'
  | 'r' => some '\r'
  | 't' => some '\t'
  | 'v' => some '\x0b'
  | '\\' => some '\\'
  | _ => none

def isOctal (c : Char) : Bool := '0' ≤ c && c ≤ '7'

/-- The byte that follows a backslash, and the rest; what is no escape leaves the backslash. -/
def takeEscape (t : Octets) : Char × Octets :=
  match t with
  | [] => ('\\', [])
  | c :: rest =>
    if isOctal c then
      let digits := (t.take 3).takeWhile isOctal
      (Char.ofNat (digitsValue 8 digits % 256), t.drop digits.length)
    else
      match escapedLetter? c with
      | some e => (e, rest)
      | none => ('\\', t)

/-- A text with its escapes replaced, and whether it ends everything behind it; `steps` is at least
its length. -/
def unescaped : (steps : Nat) → Octets → Octets × Bool
  | 0, _ => ([], false)
  | _, [] => ([], false)
  | _, '\\' :: 'c' :: _ => ([], true)
  | steps + 1, '\\' :: rest =>
    let digits := match rest with
      | '0' :: d :: more => if isOctal d then d :: more else rest
      | _ => rest
    let (c, rest) := takeEscape digits
    let (later, stops) := unescaped steps rest
    (c :: later, stops)
  | steps + 1, c :: rest =>
    let (later, stops) := unescaped steps rest
    (c :: later, stops)

def echoed (args : List Octets) : Octets :=
  let rec go (ending : Octets) : List Octets → Octets
    | [] => ending
    | [a] =>
      let (t, stops) := unescaped a.length a
      t ++ (if stops then [] else ending)
    | a :: rest =>
      let (t, stops) := unescaped a.length a
      if stops then t else t ++ ' ' :: go ending rest
  match args with
  | ['-', 'n'] :: rest => go [] rest
  | _ => go ['\n'] args

/-! ## Directives -/

structure Layout where
  toLeft : Bool
  plus : Bool
  blank : Bool
  alternate : Bool
  zeros : Bool
  width : Nat
  precision : Option Nat

namespace Layout

/-- A text brought to the width; `lead` stays in front of zeros. -/
def pad (l : Layout) (zeros : Bool) (lead digits : Octets) : Octets :=
  let missing := l.width - (lead.length + digits.length)
  if l.toLeft then lead ++ digits ++ List.replicate missing ' '
  else if zeros then lead ++ List.replicate missing '0' ++ digits
  else List.replicate missing ' ' ++ lead ++ digits

def sign (l : Layout) (negative : Bool) : Octets :=
  if negative then ['-'] else if l.plus then ['+'] else if l.blank then [' '] else []

def text (l : Layout) (t : Octets) : Octets :=
  l.pad false [] (match l.precision with
    | some n => t.take n
    | none => t)

def digits (l : Layout) (base n : Nat) : Octets :=
  if n = 0 && l.precision = some 0 then []
  else
    let written := Nat.toDigits base n
    List.replicate (l.precision.getD 1 - written.length) '0' ++ written

def signed (l : Layout) (n : Int) : Octets :=
  l.pad (l.zeros && l.precision.isNone) (l.sign (n < 0)) (l.digits 10 n.natAbs)

def capitals (t : Octets) : Octets := t.map Char.toUpper

def unsigned (l : Layout) (letter : Char) (n : Nat) : Octets :=
  let zeros := l.zeros && l.precision.isNone
  let alternate := l.alternate && n ≠ 0
  match letter with
  | 'o' =>
    let digits := l.digits 8 n
    l.pad zeros [] (if l.alternate && digits.head? ≠ some '0' then '0' :: digits else digits)
  | 'x' => l.pad zeros (if alternate then ['0', 'x'] else []) (l.digits 16 n)
  | 'X' => l.pad zeros (if alternate then ['0', 'X'] else []) (capitals (l.digits 16 n))
  | _ => l.pad zeros [] (l.digits 10 n)

end Layout

/-! ## Numbers with a point -/

inductive PointNumber where
  | finite (negative : Bool) (size : Magnitude)
  | infinite (negative : Bool)
  | noNumber
deriving DecidableEq

namespace PointNumber

def fixedDigits (num den places : Nat) (keepPoint : Bool) : Octets :=
  let scaled := Magnitude.roundHalfEven (num * tenTo places) den
  let digits := Nat.toDigits 10 scaled
  let digits := List.replicate (places + 1 - digits.length) '0' ++ digits
  let front := digits.take (digits.length - places)
  let behind := digits.drop (digits.length - places)
  if places = 0 && !keepPoint then front else front ++ '.' :: behind

/-- The power of ten of the first digit of a fraction that is not zero; `steps` bounds it. -/
def leadingPower (num den : Nat) : (steps : Nat) → Int
  | 0 => 0
  | steps + 1 =>
    if num < den then leadingPower (num * 10) den steps - 1
    else if den * 10 ≤ num then leadingPower num (den * 10) steps + 1
    else 0

/-- A fraction rounded to one digit and some places: all digits, and the power of the first. -/
def roundedDigits (num den places : Nat) : Nat × Int :=
  if num = 0 then (0, 0)
  else
    let power := leadingPower num den 2000
    let shift := Int.ofNat places - power
    let n := Magnitude.roundHalfEven (num * tenTo shift.toNat) (den * tenTo (-shift).toNat)
    if tenTo (places + 1) ≤ n then (n / 10, power + 1) else (n, power)

def powerDigits (digits : Nat) (power : Int) (places : Nat) (keepPoint : Bool) : Octets :=
  let written := fixedDigits digits (tenTo places) places keepPoint
  let size := Nat.toDigits 10 power.natAbs
  written ++ ['e', if power < 0 then '-' else '+'] ++ List.replicate (2 - size.length) '0' ++ size

/-- Digits without the zeros at their end, and without a point that nothing follows. -/
def withoutEndZeros (t : Octets) : Octets :=
  let mantissa := t.takeWhile (· ≠ 'e')
  let power := t.drop mantissa.length
  if mantissa.contains '.' then
    let kept := (mantissa.reverse.dropWhile (· = '0')).reverse
    (if kept.getLast? = some '.' then kept.dropLast else kept) ++ power
  else t

def written (l : Layout) (letter : Char) (size : Magnitude) : Octets :=
  let (num, den) := size.fraction
  let precision := l.precision.getD 6
  match letter with
  | 'f' => fixedDigits num den precision l.alternate
  | 'e' =>
    let (digits, power) := roundedDigits num den precision
    powerDigits digits power precision l.alternate
  | _ =>
    let count := max 1 precision
    let (digits, power) := roundedDigits num den (count - 1)
    let t :=
      if power < -4 || Int.ofNat count ≤ power then
        powerDigits digits power (count - 1) l.alternate
      else fixedDigits num den (Int.ofNat count - 1 - power).toNat l.alternate
    if l.alternate then t else withoutEndZeros t

def text (l : Layout) (letter : Char) (x : PointNumber) : Octets :=
  let inCase (t : Octets) : Octets := if letter.isUpper then Layout.capitals t else t
  match x with
  | .finite negative size => l.pad l.zeros (l.sign negative) (inCase (written l letter.toLower size))
  | .infinite negative => l.pad false (l.sign negative) (inCase ['i', 'n', 'f'])
  | .noNumber => l.pad false (l.sign false) (inCase ['n', 'a', 'n'])

/-- Digits with a point among them at the front of a text: the number without the point, how many
places there are behind it, and the rest. -/
def takePointed (t : Octets) : Option (Nat × Nat × Octets) :=
  let (whole, rest) := takeDigits 10 t
  let (part, rest) : Octets × Octets := match rest with
    | '.' :: behind => takeDigits 10 behind
    | _ => ([], rest)
  let hasDigits := !whole.isEmpty || !part.isEmpty
  if hasDigits then some (digitsValue 10 (whole ++ part), part.length, rest) else none

def takePower (t : Octets) : Int × Octets :=
  let digitsOf (negative : Bool) (rest : Octets) : Int × Octets :=
    let (digits, behind) := takeDigits 10 rest
    if digits.isEmpty then (0, t)
    else
      let n := Int.ofNat (min 5000 (digitsValue 10 digits))
      (if negative then -n else n, behind)
  match t with
  | e :: '-' :: rest => if e.toLower = 'e' then digitsOf true rest else (0, t)
  | e :: '+' :: rest => if e.toLower = 'e' then digitsOf false rest else (0, t)
  | e :: rest => if e.toLower = 'e' then digitsOf false rest else (0, t)
  | [] => (0, t)

def takeHexadecimal (t : Octets) : Option (Nat × Int × Octets) :=
  let (whole, rest) := takeDigits 16 t
  let (part, rest) : Octets × Octets := match rest with
    | '.' :: behind => takeDigits 16 behind
    | _ => ([], rest)
  let (power, behind) : Int × Octets := match rest with
    | p :: more => if p.toLower = 'p' then takePower ('e' :: more) else (0, rest)
    | [] => (0, [])
  let rest := if behind.length < rest.length then behind else rest
  if whole.isEmpty && part.isEmpty then none
  else some (digitsValue 16 (whole ++ part), power - 4 * Int.ofNat part.length, rest)

def scaled (negative : Bool) (n base : Nat) (power : Int) : PointNumber :=
  match Magnitude.nearest? (n * base.pow power.toNat) (base.pow (-power).toNat) with
  | some size => .finite negative size
  | none => .infinite negative

def take (t : Octets) : Option (PointNumber × Octets) :=
  let t := t.dropWhile isNumberBlank
  let (negative, digits) : Bool × Octets := match t with
    | '-' :: rest => (true, rest)
    | '+' :: rest => (false, rest)
    | _ => (false, t)
  let lower := digits.map Char.toLower
  let hexadecimal := if "0x".toList.isPrefixOf lower then takeHexadecimal (digits.drop 2) else none
  match hexadecimal, takePointed digits with
  | some (n, power, rest), _ => some (scaled negative n 2 power, rest)
  | none, some (n, places, rest) =>
    let (power, rest) := takePower rest
    some (scaled negative n 10 (power - Int.ofNat places), rest)
  | none, none =>
    if "infinity".toList.isPrefixOf lower then some (.infinite negative, digits.drop 8)
    else if "inf".toList.isPrefixOf lower then some (.infinite negative, digits.drop 3)
    else if "nan".toList.isPrefixOf lower then some (.noNumber, digits.drop 3)
    else none

end PointNumber

/-! ## Formatting -/

structure Formatting where
  /-- What has been written, the last first. -/
  written : Octets
  args : List Octets
  remarks : List Octets
  stopped : Bool

/-- A step of formatting, which a bad format ends with words; what was written stays. -/
abbrev Formatter := EStateM Octets Formatting

namespace Formatter

def put (t : Octets) : Formatter Unit :=
  modify fun f => { f with written := t.reverse ++ f.written }

def remark (t : Octets) : Formatter Unit := modify fun f => { f with remarks := f.remarks ++ [t] }

def next? : Formatter (Option Octets) := do
  let f ← get
  match f.args with
  | [] => return none
  | a :: rest =>
    set { f with args := rest }
    return some a

/-- Remarks on what was left of an argument when a number had been read from it. -/
def checkRest (a : Octets) : Option Octets → Formatter Unit
  | none => if a.isEmpty then return else remark (a ++ ": expected numeric value")
  | some rest => if rest.isEmpty then return else remark (a ++ ": not completely converted")

def quotedNumber? : Octets → Option Nat
  | c :: rest => if c = '\'' || c = '"' then some ((rest.head?.map Char.toNat).getD 0) else none
  | [] => none

/-- The next argument as a number from a range; `under` stands for what is below it. -/
def nextInteger (low high under : Int) : Formatter Int := do
  match ← next? with
  | none => return 0
  | some a =>
    match quotedNumber? a with
    | some n => return Int.ofNat n
    | none =>
      match takeInteger a with
      | none =>
        checkRest a none
        return 0
      | some (n, rest) =>
        checkRest a (some rest)
        let within := if high < n then high else if n < low then under else n
        if rest.isEmpty && within ≠ n then remark (a ++ ": Numerical result out of range")
        return within

def nextPointed : Formatter PointNumber := do
  match ← next? with
  | none => return .finite false .zero
  | some a =>
    match (quotedNumber? a).bind Magnitude.ofNat?, PointNumber.take a with
    | some size, _ => return .finite false size
    | none, none =>
      checkRest a none
      return .finite false .zero
    | none, some (x, rest) =>
      checkRest a (some rest)
      return x

def takeNumber (t : Octets) : Formatter (Option Int × Octets) := do
  match t with
  | '*' :: rest => return (some (← nextInteger least greatest least), rest)
  | _ =>
    let (digits, rest) := takeDigits 10 t
    return (if digits.isEmpty then none else some (Int.ofNat (digitsValue 10 digits)), rest)

def takeLayout (t : Octets) : Formatter (Layout × Octets) := do
  let flags := t.takeWhile (fun c => ['#', '-', '+', ' ', '0'].contains c)
  let (width, rest) ← takeNumber (t.drop flags.length)
  let (precision, rest) ← match rest with
    | '.' :: behind => do
      let (n, rest) ← takeNumber behind
      pure (some (n.getD 0), rest)
    | _ => pure ((none : Option Int), rest)
  let width := width.getD 0
  let layout : Layout :=
    { toLeft := flags.contains '-' || width < 0
      plus := flags.contains '+'
      blank := flags.contains ' '
      alternate := flags.contains '#'
      zeros := flags.contains '0'
      width := width.natAbs
      precision := precision.bind (fun n => if n < 0 then none else some n.toNat) }
  return (layout, rest)

/-- Writes the next argument as a directive says; `spelling` is the directive. -/
def writeNext (l : Layout) (letter : Char) (spelling : Octets) : Formatter Unit := do
  match letter with
  | 's' => put (l.text ((← next?).getD []))
  | 'b' =>
    let a := (← next?).getD []
    let (t, stops) := unescaped a.length a
    put (l.text t)
    if stops then modify fun f => { f with stopped := true }
  | 'c' =>
    let c := (((← next?).getD []).head?).getD '\x00'
    put (l.pad false [] [c])
  | 'd' => put (l.signed (← nextInteger least greatest least))
  | 'i' => put (l.signed (← nextInteger least greatest least))
  | _ =>
    if ['o', 'u', 'x', 'X'].contains letter then
      let top : Int := 0xFFFFFFFFFFFFFFFF
      let n ← nextInteger (-top) top top
      put (l.unsigned letter (n % (top + 1)).toNat)
    else if ['e', 'E', 'f', 'F', 'g', 'G'].contains letter then
      put ((← nextPointed).text l letter)
    else throw (spelling ++ ": invalid directive")

/-- Goes through a format once; `steps` is at least its length. -/
def formatOnce : (steps : Nat) → Octets → Formatter Unit
  | 0, _ => return
  | steps + 1, t => do
    if (← get).stopped then return
    match t with
    | [] => return
    | '\\' :: rest =>
      let (c, rest) := takeEscape rest
      put [c]
      formatOnce steps rest
    | '%' :: '%' :: rest =>
      put ['%']
      formatOnce steps rest
    | '%' :: rest =>
      let (layout, behind) ← takeLayout rest
      match behind with
      | [] => throw ("missing format character" : Octets)
      | letter :: behind =>
        writeNext layout letter ('%' :: rest.take (rest.length - behind.length))
        formatOnce steps behind
    | c :: rest =>
      put [c]
      formatOnce steps rest

/-- Goes through a format as long as it takes arguments away; `rounds` bounds how often. -/
def formatAll (format : Octets) : (rounds : Nat) → Formatter Unit
  | 0 => return
  | rounds + 1 => do
    let before := (← get).args.length
    formatOnce (format.length + 1) format
    let f ← get
    if !f.stopped && !f.args.isEmpty && f.args.length < before then formatAll format rounds

end Formatter

/-- What `printf` writes, its remarks, and the words that end it if the format is bad. -/
def formatted (format : Octets) (args : List Octets) : Octets × List Octets × Option Octets :=
  match (Formatter.formatAll format (args.length + 1)).run ⟨[], args, [], false⟩ with
  | .ok _ f => (f.written.reverse, f.remarks, none)
  | .error words f => (f.written.reverse, f.remarks, some words)

end Script
end ApiTypes
