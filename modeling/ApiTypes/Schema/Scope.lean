import ApiTypes.Naming
import ApiTypes.Vocabulary
/-!
# The type of a node

A node is read within a scope: the prefix of its section and the structures it may refer to.
Modifiers come last, nullable first and array second, so a node with both is an array of values that
may be null.
-/
namespace ApiTypes

structure Scope where
  stem : Text
  pool : List Structure

namespace Scope

/-- The first structure of the pool with an id. -/
def structure? (scope : Scope) (id : Text) : Option Structure :=
  scope.pool.find? (fun s => s.id = id)

/-- The type of a reference: the values themselves if it asks for an enumeration and the structure
has values, else the structure's type name. -/
def referenceType (scope : Scope) (id : Text) (tag : ReferenceTag) : TypeExpr :=
  match scope.structure? id with
  | none => .unknown
  | some s =>
    match tag, s.values with
    | .enum, some values => .ofLiterals values
    | _, _ => .name (Naming.structureName scope.stem s)

end Scope

def Modifiers.wrap (m : Modifiers) (t : TypeExpr) : TypeExpr :=
  let t := if m.nullable then .union [.group t, .name "null"] else t
  if m.array then .array (.group t) else t

namespace Scope

mutual

def typeOf (scope : Scope) : Node → Reported TypeExpr
  | .primitive m token => do return m.wrap (← Vocabulary.type token)
  | .reference m id tag => pure (m.wrap (scope.referenceType id tag))
  | .object m fields => do return m.wrap (.object (← typesOf scope fields))
  | .unknown m => pure (m.wrap .unknown)

def typesOf (scope : Scope) : Fields → Reported (List (Text × TypeExpr))
  | [] => pure []
  | (key, node) :: rest => do
    let t ← typeOf scope node
    let ts ← typesOf scope rest
    return (key, t) :: ts

end

end Scope
end ApiTypes
