import ApiTypes.Script.Arithmetic
import ApiTypes.Script.Fields
import ApiTypes.Script.Settings
/-!
# Replacing parameters

A word of a script becomes stretches of marks: what it says itself, and what its parameters, numbers
and commands give.  How a command is run is left to the caller.
-/
namespace ApiTypes
namespace Script

def ExpressionFault.message (expression : Octets) : ExpressionFault → Octets
  | .expected what =>
    "arithmetic expression: expecting " ++ what ++ ": \"" ++ expression ++ ['"']
  | .divisionByZero => "arithmetic expression: division by zero: \"" ++ expression ++ ['"']
  | .badNumber t => "Illegal number: " ++ t
  | .readOnly name => name ++ ": is read only"

structure Expansion where
  results : Command → Step Octets
  /-- Whether arguments stay apart. -/
  cuts : Bool

namespace Step

def parameter? (name : Octets) : Step (Option Octets) := do
  let s ← session
  match name with
  | ['?'] => return some (Text.ofNat s.status)
  | ['$'] => return some (Text.ofNat s.shell)
  | ['#'] => return some (Text.ofNat s.arguments.length)
  | ['!'] => return s.background.head?.map (fun b => Text.ofNat b.1)
  | ['-'] => return some (Setting.letters s.settings)
  | _ =>
    if name.all Char.isDigit then
      let n := digitsValue 10 name
      return if n = 0 then some s.name else s.arguments[n - 1]?
    else valueOf? name

end Step

namespace Expansion

def joinedArguments (between : List Mark) (quoted : Bool) : List Octets → List Mark
  | [] => []
  | [a] => marksOf quoted a
  | a :: rest => marksOf quoted a ++ between ++ joinedArguments between quoted rest

/-- All arguments as a stretch; `each` keeps them apart also in quotes. -/
def arguments (e : Expansion) (each quoted : Bool) : Step Stretch := do
  let args := (← Step.session).arguments
  if e.cuts && quoted && each then
    let cutting := if args.isEmpty then .never else .atGaps
    return ⟨cutting, joinedArguments [.gap] true args⟩
  else if e.cuts && !quoted then
    return ⟨.atSeparators, joinedArguments [.gap] false args⟩
  else
    let between := match (← Step.valueOf? "IFS") with
      | some t => t.take 1
      | none => [' ']
    return ⟨.never, joinedArguments (marksOf quoted between) quoted args⟩

/-- The value of a parameter as a stretch; none if it is not set. -/
def value (e : Expansion) (name : Octets) (quoted : Bool) : Step (Option Stretch) := do
  if name = ['@'] || name = ['*'] then
    return some (← e.arguments (name = ['@']) quoted)
  else
    let cutting : Cutting := if quoted then .never else .atSeparators
    return (← Step.parameter? name).map (fun t => ⟨cutting, marksOf quoted t⟩)

def text (stretches : List Stretch) : Octets := plainText (stretches.flatMap (·.marks))

def complaint (name : Octets) (orEmpty : Bool) (words : Option Octets) : Octets :=
  name ++ ": " ++ words.getD (if orEmpty then "parameter not set or null" else "parameter not set")

def require (name : Octets) : Option Stretch → Step Stretch
  | some s => return s
  | none => do
    if ← Step.isSet .noUnset then Step.fail (complaint name false none)
    else return ⟨.never, []⟩

def assign (name value : Octets) : Step Unit := do
  if isName name then Step.assign name value false
  else Step.fail (name ++ ": bad variable name")

/-- A home directory in place of a tilde, at the front of a word or behind a colon. -/
def tilde (parts : Word) : Step Word := do
  match parts with
  | .literal ('~' :: rest) false :: others =>
    let name := rest.takeWhile (fun c => c ≠ '/')
    let isWhole : Bool := name.length < rest.length || others.isEmpty
    if name.isEmpty && isWhole then
      match ← Step.valueOf? "HOME" with
      | some home => return .literal home true :: .literal rest false :: others
      | none => return parts
    else if name = "root" && isWhole then
      return .literal "/root" true :: .literal (rest.drop name.length) false :: others
    else return parts
  | _ => return parts

/-- The stretches of parts; `inUse` holds for the words that belong to parameters, whose unquoted
characters are cut, too. -/
def stretches (e : Expansion) : (fuel : Nat) → (inUse : Bool) → Word → Step (List Stretch)
  | 0, _, _ => throw .exhausted
  | _, _, [] => return []
  | fuel + 1, inUse, p :: rest => do
    let cuttingOf (quoted : Bool) : Cutting := if quoted then .never else .atSeparators
    let first : List Stretch ← match p with
      | .literal t quoted =>
        pure [⟨if inUse && !quoted then .atSeparators else .never, marksOf quoted t⟩]
      | .quotes => pure [⟨.never, [.quotes]⟩]
      | .results body quoted => do
        let written ← e.results body
        let kept := (written.filter (· ≠ '\x00')).reverse.dropWhile (· = '\n') |>.reverse
        pure [⟨cuttingOf quoted, marksOf quoted kept⟩]
      | .number expression quoted => do
        let inner : Expansion := { e with cuts := false }
        let t := text (← inner.stretches fuel false expression)
        let s ← Step.session
        let lookup (name : Octets) : Octets := ((find? name s.bindings).bind (·.value)).getD []
        let isFixed (name : Octets) : Bool := (find? name s.bindings).any (·.readOnly)
        match evaluate lookup isFixed t with
        | .ok (n, assigned) => do
          for (name, value) in assigned do
            Step.assign name (toString value.toInt).toList false
          pure [⟨cuttingOf quoted, marksOf quoted (toString n.toInt).toList⟩]
        | .error fault => Step.fail (fault.message t)
      | .parameter name use quoted => do
        let withHome (w : Word) : Step Word := if quoted then return w else tilde w
        let inUseWord (w : Word) : Step (List Stretch) := do
          e.stretches fuel true (← withHome w)
        let plain (w : Word) : Step Octets := do
          let inner : Expansion := { e with cuts := false }
          return text (← inner.stretches fuel true (← withHome w))
        let isMissing (orEmpty : Bool) (v : Option Stretch) : Bool :=
          match v with
          | some s => orEmpty && (plainText s.marks).isEmpty && !s.marks.contains .gap
          | none => true
        match use with
        | .malformed => Step.fail "Bad substitution"
        | .value => do pure [← require name (← e.value name quoted)]
        | .length => do
          let s ← require name (← e.value name quoted)
          pure [⟨cuttingOf quoted, marksOf quoted (Text.ofNat s.marks.length)⟩]
        | .orElse orEmpty w => do
          let v ← e.value name quoted
          if isMissing orEmpty v then inUseWord w else pure v.toList
        | .ifSet orEmpty w => do
          if isMissing orEmpty (← e.value name quoted) then pure [] else inUseWord w
        | .orAssign orEmpty w => do
          let v ← e.value name quoted
          if isMissing orEmpty v then
            assign name (← plain w)
            pure (← e.value name quoted).toList
          else pure v.toList
        | .orFail orEmpty w => do
          let v ← e.value name quoted
          if isMissing orEmpty v then
            let words : Option Octets ← if w.isEmpty then pure none else do pure (some (← plain w))
            Step.fail (complaint name orEmpty words)
          else pure v.toList
        | .trim atEnd longest w => do
          match ← e.value name quoted with
          | none => pure [← require name none]
          | some s =>
            let inner : Expansion := { e with cuts := false }
            let marks := (← inner.stretches fuel false (← tilde w)).flatMap (·.marks)
            let pattern := Pattern.ofGlyphs (glyphsOf marks)
            pure [⟨s.cutting, trimMarks pattern atEnd longest s.marks⟩]
    return first ++ (← e.stretches fuel inUse rest)

def fields (e : Expansion) (fuel : Nat) (w : Word) : Step (List Octets) := do
  let stretches ← Expansion.stretches { e with cuts := true } fuel false (← tilde w)
  let fields := fieldsOf (← Step.separators) none stretches
  let usesPatterns := !(← Step.isSet .noPatterns)
  let d ← Step.disk
  return fields.flatMap (textsOf d usesPatterns)

def marks (e : Expansion) (fuel : Nat) (w : Word) : Step (List Mark) := do
  let stretches ← Expansion.stretches { e with cuts := false } fuel false (← tilde w)
  return stretches.flatMap (·.marks)

def whole (e : Expansion) (fuel : Nat) (w : Word) : Step Octets := do
  return plainText (← e.marks fuel w)

end Expansion
end Script
end ApiTypes
