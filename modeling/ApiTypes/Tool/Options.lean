import ApiTypes.Tool
/-!
# The options of a tool

An argument that begins with a hyphen holds options: one hyphen is followed by letters, two by a
name, which may be cut short as long as it stays clear which one is meant.  The other arguments are
operands, and so is everything behind an argument of two hyphens.  The first argument that is no
known option is a fault, and nothing behind it matters.
-/
namespace ApiTypes
namespace Tool

/-- An option with a name.  Options with a letter and with a name may have one key. -/
structure NamedOption where
  name : Octets
  key : Char
  takesValue : Bool

structure OptionTable where
  letters : List Char
  named : List NamedOption
  /-- Whether the first operand ends the options. -/
  operandsLast : Bool

structure Reading where
  options : List Char
  operands : List Octets

namespace Reading

def has (r : Reading) (key : Char) : Bool := r.options.contains key

end Reading

/-- The options of one argument of letters, or the first letter that is none. -/
def readLetters (table : OptionTable) : Octets → Except Octets (List Char)
  | [] => .ok []
  | c :: rest =>
    if table.letters.contains c then
      (readLetters table rest).map (c :: ·)
    else .error ("invalid option -- '" ++ [c] ++ ['\''])

def findNamed (table : OptionTable) (name whole : Octets) : Except Octets NamedOption :=
  let meant := table.named.filter (fun o => name.isPrefixOf o.name)
  match meant.find? (fun o => o.name = name), meant with
  | some o, _ => .ok o
  | none, [] => .error ("unrecognized option '--" ++ whole ++ ['\''])
  | none, first :: others =>
    if others.all (fun o => o.key = first.key) then .ok first
    else
      .error ("option '--" ++ whole ++ "' is ambiguous; possibilities:"
        ++ meant.flatMap (fun o => " '--".toList ++ o.name ++ ['\'']))

def readNamed (table : OptionTable) (whole : Octets) : Except Octets (NamedOption × Bool) := do
  let name := whole.takeWhile (fun c => c ≠ '=')
  let joined := whole.contains '='
  let o ← findNamed table name whole
  if joined && !o.takesValue then
    throw ("option '--" ++ o.name ++ "' doesn't allow an argument")
  return (o, joined)

def readOptions (table : OptionTable) : List Octets → Except Octets Reading
  | [] => .ok ⟨[], []⟩
  | arg :: rest =>
    match arg with
    | ['-', '-'] => .ok ⟨[], rest⟩
    | '-' :: '-' :: whole => do
      let (o, joined) ← readNamed table whole
      match o.takesValue, joined, rest with
      | true, false, [] => throw ("option '--" ++ o.name ++ "' requires an argument")
      | true, false, _ :: rest =>
        let r ← readOptions table rest
        return { r with options := o.key :: r.options }
      | _, _, rest =>
        let r ← readOptions table rest
        return { r with options := o.key :: r.options }
    | '-' :: c :: letters => do
      let found ← readLetters table (c :: letters)
      let r ← readOptions table rest
      return { r with options := found ++ r.options }
    | _ =>
      if table.operandsLast then .ok ⟨[], arg :: rest⟩
      else do
        let r ← readOptions table rest
        return { r with operands := arg :: r.operands }

def misuse (name words : Octets) (input : Octets) : Finished :=
  complain 1 (name ++ ": " ++ words ++ "\nTry '" ++ name ++ " --help' for more information.") input

end Tool
end ApiTypes
