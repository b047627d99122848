import ApiTypes.Json.Render
/-!
# The schema dialect

A section offers selections; a selection has a response schema and a pool of structures that the
schema may refer to by id.  A schema is a list of named nodes, and a node is read from JSON once
(`Node.ofJson`), so that everything after works on cases and not on keys.  Reading a node never
fails: what is not understood is an unknown node.
-/
namespace ApiTypes

structure Modifiers where
  nullable : Bool
  array : Bool
deriving DecidableEq

def Modifiers.plain : Modifiers := ⟨false, false⟩

/-- How a reference asks for its structure to be shown. -/
inductive ReferenceTag where
  | enum
  | object
  | other
deriving DecidableEq

/-- The tag with a name; a name that is missing or not known is some other tag. -/
def ReferenceTag.ofName : Option Text → ReferenceTag
  | some name =>
    if name = "enum".toList then .enum else if name = "object".toList then .object else .other
  | none => .other

inductive Node where
  | primitive (modifiers : Modifiers) (token : Text)
  /-- A structure of the selection's pool. -/
  | reference (modifiers : Modifiers) (id : Text) (tag : ReferenceTag)
  /-- An object spelled out in place. -/
  | object (modifiers : Modifiers) (fields : List (Text × Node))
  | unknown (modifiers : Modifiers)

abbrev Fields := List (Text × Node)

namespace Node

def modifiersOf (members : List (Text × Json)) : Modifiers :=
  ⟨Json.isTrue (Json.lookup "nullable" members), Json.isTrue (Json.lookup "array" members)⟩

/-- Whether a member is a modifier and so no field of an object spelled out in place. -/
def isModifier (key : Text) (value : Json) : Bool :=
  (key = "nullable".toList || key = "array".toList) && value.isBool

/-- The id that a reference names; a reference without one names the empty id. -/
def referenceId (members : List (Text × Json)) : Text :=
  match Json.lookup "id" members with
  | some v => v.idText
  | none => []

def referenceTag (members : List (Text × Json)) : ReferenceTag :=
  ReferenceTag.ofName ((Json.lookup "type" members).bind Json.text?)

mutual

/-- The node a JSON value stands for.  A `type` in words comes first, then a `structure` that is an
object; an object with neither key is spelled out in place, and one with either key in another
shape is unknown. -/
def ofJson : Json → Node
  | .obj members =>
    match (Json.lookup "type" members).bind Json.text? with
    | some token => .primitive (modifiersOf members) token
    | none =>
      match Json.lookup "structure" members with
      | some (.obj target) =>
        .reference (modifiersOf members) (referenceId target) (referenceTag target)
      | _ =>
        if Json.hasKey "type" members || Json.hasKey "structure" members then
          .unknown (modifiersOf members)
        else .object (modifiersOf members) (fieldsInPlace members)
  | _ => .unknown .plain

def fieldsInPlace : List (Text × Json) → List (Text × Node)
  | [] => []
  | (key, value) :: rest =>
    if isModifier key value then fieldsInPlace rest
    else (key, ofJson value) :: fieldsInPlace rest

end

end Node

/-- The fields of a schema: all members of an object, none of any other value. -/
def Fields.ofJson : Json → Fields
  | .obj members => members.map (fun m => (m.1, Node.ofJson m.2))
  | _ => []

/-- A named shape that nodes refer to by id. -/
structure Structure where
  id : Text
  name : Text
  kind : Option Text
  /-- The values of an enumeration. -/
  values : Option (List Text)
  /-- The fields of an object. -/
  schema : Option Fields

/-- One query of a section, with the structures its response may refer to. -/
structure Selection where
  name : Text
  description : Text
  access : Text
  schema : Fields
  structures : List Structure

structure ErrorEntry where
  code : Int
  message : Text
  description : Text
deriving DecidableEq

end ApiTypes
