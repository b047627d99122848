import ApiTypes.Double.Shortest
/-!
# JSON documents

An object is the list of its members in the order of their keys' first appearance; a key that
appears again takes the later value and keeps its place (`insertMember`).  Whole numbers that fit 64
bits are kept as integers; every other number is a double.
-/
namespace ApiTypes

inductive Json where
  | null
  | bool (b : Bool)
  | int (n : Int)
  | double (x : Double)
  | str (t : Text)
  | arr (items : List Json)
  | obj (members : List (Text × Json))

namespace Json

def lookup (key : Text) : List (Text × Json) → Option Json
  | [] => none
  | (k, v) :: rest => if k = key then some v else lookup key rest

def hasKey (key : Text) (members : List (Text × Json)) : Bool := (lookup key members).isSome

/-- Puts a member at the end, or in the place of the member with the same key. -/
def insertMember (key : Text) (value : Json) : List (Text × Json) → List (Text × Json)
  | [] => [(key, value)]
  | (k, v) :: rest =>
    if k = key then (k, value) :: rest else (k, v) :: insertMember key value rest

def text? : Json → Option Text
  | .str t => some t
  | _ => none

def isBool : Json → Bool
  | .bool _ => true
  | _ => false

/-- Whether a member is there and is `true`. -/
def isTrue : Option Json → Bool
  | some (.bool b) => b
  | _ => false

/-- How doubles are written: in full while the first digit stands between the fifth place after the
point and the sixteenth before it. -/
def doubleLayout : DecimalLayout := ⟨-5, 15⟩

end Json
end ApiTypes
