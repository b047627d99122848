import ApiTypes.Json.Render
import ApiTypes.Text.Quoted
/-!
# Records in JSON

A record is written as an object, or as the list of its fields in their declared order.  A
`RecordReader` is put together field by field; it knows the names of its fields, what is wrong with
a single member, and how to build the record from all members.

The first bad member in the order of the document is the fault; only then is the first field
missed, in declared order.  Members that name no field are passed over.
-/
namespace ApiTypes

inductive Found where
  | null
  | bool (b : Bool)
  | int (n : Int)
  | double (x : Double)
  | text (t : Text)
  | list
  | object
deriving DecidableEq

inductive Wanted where
  | record (title : Text)
  | list
  | text
  | integer
deriving DecidableEq

/-- Why a document has not the shape that was asked for. -/
inductive ShapeFault where
  | wrongKind (found : Found) (wanted : Wanted)
  | outOfRange (n : Int)
  | missingField (name : Text)
  /-- A record written as a list that ends before a field that must be there. -/
  | tooShort (length : Nat) (title : Text) (fields : Nat)
  | tooLong (length : Nat)
deriving DecidableEq

namespace Found

def ofJson : Json → Found
  | .null => .null
  | .bool b => .bool b
  | .int n => .int n
  | .double x => .double x
  | .str t => .text t
  | .arr _ => .list
  | .obj _ => .object

def message : Found → Text
  | .null => "null"
  | .bool true => "boolean `true`"
  | .bool false => "boolean `false`"
  | .int n => "integer `" ++ Text.ofInt n ++ "`"
  | .double x => "floating point `" ++ x.render Json.doubleLayout ++ "`"
  | .text t => "string " ++ t.quoted
  | .list => "sequence"
  | .object => "map"

end Found

def Wanted.message : Wanted → Text
  | .record title => "struct " ++ title
  | .list => "a sequence"
  | .text => "a string"
  | .integer => "i64"

def ShapeFault.message : ShapeFault → Text
  | .wrongKind found wanted => "invalid type: " ++ found.message ++ ", expected " ++ wanted.message
  | .outOfRange n =>
    "invalid value: integer `" ++ Text.ofInt n ++ "`, expected " ++ Wanted.integer.message
  | .missingField name => "missing field `" ++ name ++ "`"
  | .tooShort length title fields =>
    "invalid length " ++ Text.ofNat length ++ ", expected " ++ (Wanted.record title).message
      ++ " with " ++ Text.ofNat fields ++ (if fields = 1 then " element" else " elements")
  | .tooLong length =>
    "invalid length " ++ Text.ofNat length ++ ", expected fewer elements in array"

abbrev Decoder (α : Type) := Json → Except ShapeFault α

namespace Decoder

def refuse {α : Type} (v : Json) (wanted : Wanted) : Except ShapeFault α :=
  .error (.wrongKind (Found.ofJson v) wanted)

def text : Decoder Text
  | .str t => .ok t
  | v => refuse v .text

def int64 : Decoder Int
  | .int n => if -(twoTo 63 : Int) ≤ n ∧ n < twoTo 63 then .ok n else .error (.outOfRange n)
  | v => refuse v .integer

/-- A list, read item by item up to the first bad one. -/
def list {α : Type} (item : Decoder α) : Decoder (List α)
  | .arr items => items.mapM item
  | v => refuse v .list

/-- A value for which `null` says that it is absent. -/
def nullable {α : Type} (item : Decoder α) : Decoder (Option α)
  | .null => .ok none
  | v => (item v).map some

def any {α : Type} (f : Json → α) : Decoder α := fun v => .ok (f v)

end Decoder

/-- Reads a record from its members. -/
structure RecordReader (α : Type) where
  names : List Text
  fault? : Text → Json → Option ShapeFault
  /-- The record of all members, or the first field that is missing. -/
  build : List (Text × Json) → Except ShapeFault α

namespace RecordReader

variable {α β : Type}

def start (a : α) : RecordReader α := ⟨[], fun _ _ => none, fun _ => .ok a⟩

def faultOf (read : Decoder α) (v : Json) : Option ShapeFault :=
  match read v with
  | .ok _ => none
  | .error fault => some fault

def required (r : RecordReader (α → β)) (name : Text) (read : Decoder α) : RecordReader β where
  names := r.names ++ [name]
  fault? key v := if key = name then faultOf read v else r.fault? key v
  build members := do
    let f ← r.build members
    match Json.lookup name members with
    | some v => return f (← read v)
    | none => throw (.missingField name)

def optional (r : RecordReader (α → β)) (name : Text) (default : α) (read : Decoder α) :
    RecordReader β where
  names := r.names ++ [name]
  fault? key v := if key = name then faultOf read v else r.fault? key v
  build members := do
    let f ← r.build members
    match Json.lookup name members with
    | some v => return f (← read v)
    | none => return f default

/-- Refuses the first bad member in the order of the document. -/
def check (r : RecordReader α) (members : List (Text × Json)) : Except ShapeFault Unit :=
  match members.findSome? (fun m => r.fault? m.1 m.2) with
  | some fault => .error fault
  | none => .ok ()

/-- Reads the record, whose title appears in messages, in either of its two forms. -/
def decode (r : RecordReader α) (title : Text) : Decoder α
  | .obj members => do
    r.check members
    r.build members
  | .arr items => do
    let members := r.names.zip items
    r.check members
    match r.build members with
    | .ok a => if r.names.length < items.length then throw (.tooLong items.length) else return a
    | .error _ => throw (.tooShort items.length title r.names.length)
  | v => Decoder.refuse v (.record title)

end RecordReader
end ApiTypes
