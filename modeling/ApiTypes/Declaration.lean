import ApiTypes.Member
import ApiTypes.Registry
/-!
# The declarations of a section

For each selection in order, the structures of its pool are declared first, each type name at most
once in the section, and then the response.  A name counts as declared from its first structure on,
also if that structure has no shape and nothing is written for it.  Responses are always declared.
-/
namespace ApiTypes

/-- One exported type. -/
inductive Declaration where
  | alias (name : Text) (type : TypeExpr)
  | interface (name : Text) (members : List Member)

namespace Declaration

def name : Declaration → Text
  | .alias n _ => n
  | .interface n _ => n

def render : Declaration → Text
  | .alias n t => "export type " ++ n ++ " = " ++ t.render ++ ";"
  | .interface n ms =>
    Text.joinLines
      (("export interface " ++ n ++ " \x7b") :: ms.map (fun m => "    " ++ m.render) ++ [['\x7d']])

end Declaration

/-- The declaration of a structure: its values if it has any list of them, else its fields; none if
it has neither. -/
def Structure.declare (scope : Scope) (name : Text) (s : Structure) :
    Reported (Option Declaration) :=
  match s.values, s.schema with
  | some values, _ => pure (some (.alias name (.ofLiterals values)))
  | none, some fields => do return some (.interface name (← fields.members scope))
  | none, none => pure none

namespace Selection

def scope (stem : Text) (s : Selection) : Scope := ⟨stem, s.structures⟩

/-- The declarations of the structures whose names are new, and the registry with these names. -/
def declareStructures (scope : Scope) :
    List Structure → Registry → Reported (List Declaration × Registry)
  | [], registry => pure ([], registry)
  | s :: rest, registry => do
    let name := Naming.structureName scope.stem s
    match registry.register name with
    | (false, registry) => declareStructures scope rest registry
    | (true, registry) => do
      let own ← s.declare scope name
      let (others, registry) ← declareStructures scope rest registry
      return (own.toList ++ others, registry)

def declareResponse (scope : Scope) (s : Selection) : Reported Declaration := do
  return .interface (Naming.responseName scope.stem s) (← s.schema.members scope)

def declare (stem : Text) (s : Selection) (registry : Registry) :
    Reported (List Declaration × Registry) := do
  let scope := s.scope stem
  let (structures, registry) ← declareStructures scope s.structures registry
  let response ← declareResponse scope s
  return (structures ++ [response], registry)

def declareAll (stem : Text) : List Selection → Registry → Reported (List Declaration)
  | [], _ => pure []
  | s :: rest, registry => do
    let (own, registry) ← s.declare stem registry
    let others ← declareAll stem rest registry
    return own ++ others

end Selection

def sectionDeclarations (name : Text) (selections : List Selection) :
    Reported (List Declaration) :=
  Selection.declareAll (Naming.sectionPrefix name) selections .empty

/-- Declarations in order, each followed by a line break, with an empty line between each two. -/
def renderDeclarations (ds : List Declaration) : Text :=
  Text.joinLines (ds.flatMap (fun d => [d.render, []]))

def sectionText (name : Text) (selections : List Selection) : Reported Text := do
  return renderDeclarations (← sectionDeclarations name selections)

end ApiTypes
