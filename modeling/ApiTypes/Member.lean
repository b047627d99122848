import ApiTypes.Schema.Scope
/-!
# The members of a declared interface

A field whose name stands in angle brackets is a wildcard: the object takes any key, with that type
of value.  Fixed fields come first and the wildcard last.  An interface can have one wildcard only,
so several of them become one over the union of their types, and the fixed fields are left out.
-/
namespace ApiTypes

inductive MemberKey where
  | fixed (name : Text)
  | wildcard (parameter : Text)
deriving DecidableEq

structure Member where
  key : MemberKey
  type : TypeExpr

namespace MemberKey

/-- What stands between the brackets of a wildcard's name, none for the name of a fixed field. -/
def wildcard? (name : Text) : Option Text :=
  match name with
  | '<' :: rest => if rest.getLast? = some '>' then some rest.dropLast else none
  | _ => none

def isGap (c : Char) : Bool := isBlank c || c = '-'

/-- Every run of gap characters replaced by one underscore; `inGap` says that the character before
was one. -/
def closeGaps : (inGap : Bool) → Text → Text
  | _, [] => []
  | inGap, c :: rest =>
    if isGap c then (if inGap then closeGaps true rest else '_' :: closeGaps true rest)
    else c :: closeGaps false rest

def parameterName (inside : Text) : Text :=
  if inside.isEmpty then "key" else closeGaps false inside

def ofName (name : Text) : MemberKey :=
  match wildcard? name with
  | some inside => .wildcard (parameterName inside)
  | none => .fixed name

def render : MemberKey → Text
  | .fixed name => TypeExpr.renderKey name
  | .wildcard parameter => "[" ++ parameter ++ ": string]"

end MemberKey

def Member.render (m : Member) : Text := m.key.render ++ ": " ++ m.type.render ++ ";"

namespace Fields

def isWildcard (field : Text × Node) : Bool := (MemberKey.wildcard? field.1).isSome

/-- The types in order, each left out whose written form has come before. -/
def distinct : (before : List Text) → List TypeExpr → List TypeExpr
  | _, [] => []
  | before, t :: rest =>
    if t.render ∈ before then distinct before rest
    else t :: distinct (t.render :: before) rest

def ownMembers (scope : Scope) : Fields → Reported (List Member)
  | [] => pure []
  | (name, node) :: rest => do
    let t ← scope.typeOf node
    let ms ← ownMembers scope rest
    return ⟨.ofName name, t⟩ :: ms

def members (scope : Scope) (fields : Fields) : Reported (List Member) := do
  let wild := fields.filter isWildcard
  let fixed := fields.filter (fun f => !isWildcard f)
  if 1 < wild.length then
    let types ← scope.typesOf wild
    return [⟨.wildcard "key", .union (distinct [] (types.map Prod.snd))⟩]
  else ownMembers scope (fixed ++ wild)

end Fields
end ApiTypes
