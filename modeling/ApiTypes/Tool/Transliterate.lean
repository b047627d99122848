import ApiTypes.Tool.ByteSet
import ApiTypes.Tool.Options
/-!
# Replacing bytes by bytes

Bytes of a first set are replaced by those at the same places of a second one, or deleted, and runs
of one byte are made one byte.  The second set is filled up with its last byte.  Where both sets have
a class of letters of one case at the same place, the case of letters is changed.
-/
namespace ApiTypes
namespace Tool

open ByteSet

structure Replacement where
  complement : Bool
  delete : Bool
  squeeze : Bool
  truncate : Bool

/-- Runs of one byte made one byte, for the bytes of a set. -/
def squeezed (set : Octets) : (before : Option Char) → Octets → Octets
  | _, [] => []
  | before, c :: rest =>
    if before = some c ∧ set.contains c then squeezed set before rest
    else c :: squeezed set (some c) rest

def caseClass? : Element → Option Octets
  | .named name => if name = "lower".toList ∨ name = "upper".toList then some name else none
  | _ => none

/-- The bytes of elements, each element by itself and with its class of one case; elements without
bytes are left out. -/
def runs (elements : List Element) : List (Option Octets × Octets) :=
  (elements.map (fun e => (caseClass? e, e.bytes))).filter (fun r => !r.2.isEmpty)

/-- The runs without their first byte, and whether a new run begins then. -/
def dropByte : List (Option Octets × Octets) → List (Option Octets × Octets) × Bool
  | [] => ([], true)
  | (tag, _ :: c :: rest) :: others => ((tag, c :: rest) :: others, false)
  | _ :: others => (others, true)

/-- How many letters a class of one case has besides the first. -/
def spareLetters : Nat := 25

/-- Goes through both sets side by side and finds how many places of each are to be left out of
account, since a whole class is matched at one place.  None if a class of the second set is not met
by one of the first.  `fresh` tells where runs begin; `steps` is at least the number of bytes. -/
def alignCases : (steps : Nat) → (fresh₁ fresh₂ : Bool) →
    (first second : List (Option Octets × Octets)) → (spare₁ spare₂ : Nat) → Option (Nat × Nat)
  | 0, _, _, _, _, spare₁, spare₂ => some (spare₁, spare₂)
  | steps + 1, fresh₁, fresh₂, first, second, spare₁, spare₂ =>
    let tag₁ := (first.head?.bind (·.1))
    match second with
    | [] => some (spare₁, spare₂)
    | (some _, _) :: others =>
      if fresh₂ && !(fresh₁ && tag₁.isSome) then none
      else
        alignCases steps true true first.tail others (spare₁ + spareLetters)
          (spare₂ + spareLetters)
    | _ =>
      if first.isEmpty then some (spare₁, spare₂)
      else
        let (first, fresh₁) := dropByte first
        let (second, fresh₂) := dropByte second
        alignCases steps fresh₁ fresh₂ first second spare₁ spare₂

/-- The second set with its repetitions without a number made as long as is needed. -/
def filledRepeats (needed : Nat) (elements : List Element) : List Element :=
  elements.map fun
    | .repeated c none => .repeated c (some needed)
    | e => e

def openRepeats (elements : List Element) : Nat :=
  elements.countP fun
    | .repeated _ none => true
    | _ => false

/-- The byte that fills up a set; none if the set ends with a class. -/
def filler? : List Element → Option Char
  | [] => none
  | elements =>
    match elements.getLast? with
    | some (.single c) => some c
    | some (.range _ high) => some high
    | some (.repeated c _) => some c
    | _ => none

def isClass : Element → Bool
  | .named _ => true
  | _ => false

/-- The second set as it is matched with the first, or why it cannot be. -/
def matchedSet (r : Replacement) (first second : List Element) :
    Except SetFault (List Element) := do
  let bytes₁ := bytesOf first
  let length₁ := if r.complement then (complement bytes₁).length else bytes₁.length
  let plain₂ := (bytesOf second).length
  let opens := openRepeats second
  let fills : Bool := opens = 1 && plain₂ ≤ length₁
  let second := if fills then filledRepeats (length₁ - plain₂) second else second
  let length₂ := if fills then length₁ else plain₂
  if 1 < opens then throw .severalOpenRepeats
  if second.any (fun e => match e with | .equivalent _ => true | _ => false) then
    throw .equivalenceSecond
  if second.any (fun e => isClass e && (caseClass? e).isNone) then
    throw .classSecond
  let aligned :=
    if r.complement ∨ !second.any isClass then some (0, 0)
    else
      alignCases (bytes₁.length + length₂ + 1) true true (runs first) (runs second) 0 0
  match aligned with
  | none => throw .misaligned
  | some (spare₁, spare₂) =>
    let (length₁, length₂) := (length₁ - spare₁, length₂ - spare₂)
    if length₂ < length₁ && !r.truncate then
      if length₂ = 0 then throw .emptySecond
      match filler? second with
      | none => throw .classAtEnd
      | some c =>
        let second := second ++ [.repeated c (some (length₁ - length₂))]
        checkComplement length₁ length₁ second
        return second
    else
      checkComplement length₁ length₂ second
      return second
where
  checkComplement (length₁ length₂ : Nat) (second : List Element) : Except SetFault Unit :=
    let bytes := bytesOf second
    if r.complement && first.any isClass
        && !(length₁ = length₂ && !bytes.isEmpty && bytes.all (fun c => bytes.head? = some c)) then
      .error .complementSpread
    else .ok ()

def casePairs (name : Octets) : List (Char × Char) :=
  if name = "lower".toList then (between 'a' 'z').zip (between 'A' 'Z')
  else (between 'A' 'Z').zip (between 'a' 'z')

/-- The bytes of both sets in pairs; `steps` is at least the number of bytes. -/
def pairs : (steps : Nat) → (first second : List (Option Octets × Octets)) → List (Char × Char)
  | 0, _, _ => []
  | steps + 1, first, second =>
    match first, second with
    | (tag₁, a :: _) :: rest₁, (tag₂, b :: _) :: rest₂ =>
      match tag₁, tag₂ with
      | some name₁, some name₂ =>
        if name₁ = name₂ then (a, b) :: pairs steps rest₁ rest₂
        else casePairs name₁ ++ pairs steps rest₁ rest₂
      | none, some _ => (a, b) :: pairs steps rest₁ rest₂
      | _, none => (a, b) :: pairs steps (dropByte first).1 (dropByte second).1
    | _, _ => []

/-- What a byte is replaced by: its last partner, or itself. -/
def partner (table : List (Char × Char)) (c : Char) : Char :=
  match table.reverse.find? (fun p => p.1 = c) with
  | some p => p.2
  | none => c

def replaced (r : Replacement) (first second : List Element) (input : Octets) : Octets :=
  let table :=
    if r.complement then (complement (bytesOf first)).zip (bytesOf second)
    else
      let (runs₁, runs₂) := (runs first, runs second)
      pairs ((bytesOf first).length + (bytesOf second).length + 1) runs₁ runs₂
  let images := (between '\x00' '\xff').map (partner table)
  input.map (fun c => images.getD c.toNat c)

def transform (r : Replacement) (first : List Element) (second : Option (List Element))
    (input : Octets) : Except SetFault Octets := do
  if 0 < openRepeats first then throw .openRepeatFirst
  let bytes := bytesOf first
  let chosen := if r.complement then complement bytes else bytes
  match second with
  | none =>
    if r.squeeze then return squeezed chosen none input
    else return input.filter (fun c => !chosen.contains c)
  | some second =>
    if r.delete then
      if 1 < openRepeats second then throw .severalOpenRepeats
      if 0 < openRepeats second then throw .openRepeatUnmatched
      return squeezed (bytesOf second) none (input.filter (fun c => !chosen.contains c))
    else
      let second ← matchedSet r first second
      let output := replaced r first second input
      return if r.squeeze then squeezed (bytesOf second) none output else output

def transliterateOptions : OptionTable where
  letters := "AcCdst".toList
  named := [⟨"complement", 'c', false⟩, ⟨"delete", 'd', false⟩, ⟨"squeeze-repeats", 's', false⟩,
    ⟨"truncate-set1", 't', false⟩, ⟨"help", 'h', false⟩, ⟨"version", 'V', false⟩]
  operandsLast := true

def operandFault (r : Replacement) (operands : List Octets) : Option Octets :=
  let least := if r.delete = r.squeeze then 2 else 1
  let most := if r.delete && !r.squeeze then 1 else 2
  if operands.length < least then
    match operands.getLast? with
    | none => some "missing operand"
    | some last =>
      some ("missing operand after " ++ shownSet last
        ++ (if r.squeeze then
          "\nTwo strings must be given when both deleting and squeezing repeats."
        else "\nTwo strings must be given when translating."))
  else
    match operands.drop most with
    | [] => none
    | extra :: _ =>
      some ("extra operand " ++ shownSet extra
        ++ (if operands.length = 2 then
          "\nOnly one string may be given when deleting without squeezing repeats."
        else ""))

def readSets (name : Octets) :
    List Octets → List (Output × Octets) × Except SetFault (List (List Element))
  | [] => ([], .ok [])
  | t :: rest =>
    let said := (warnings t.length t).flatMap (fun w => remark (name ++ ": " ++ w))
    match ByteSet.parse t with
    | .error fault => (said, .error fault)
    | .ok set =>
      let (later, others) := readSets name rest
      (said ++ later, others.map (set :: ·))

def transliterate (name : Octets) : Tool := fun args input =>
  match readOptions transliterateOptions args with
  | .error words => misuse name words input
  | .ok reading =>
    let r : Replacement :=
      ⟨reading.has 'c' || reading.has 'C', reading.has 'd', reading.has 's', reading.has 't'⟩
    match operandFault r reading.operands with
    | some words => misuse name words input
    | none =>
      let (said, sets) := readSets name reading.operands
      let outcome := sets.bind fun
        | first :: others => transform r first others.head? input
        | [] => .ok input
      match outcome with
      | .ok output => ⟨said ++ [(.results, output)], [], success⟩
      | .error fault => ⟨said ++ remark (name ++ ": " ++ fault.message), input, .code 1⟩

end Tool
end ApiTypes
