import ApiTypes.Diagnostic
import ApiTypes.Text.Case
import ApiTypes.TypeExpr
/-!
# The vocabulary of basic types

Schemas name basic types in free words.  The words are compared without regard to case; words that
are not in the table stand for the unknown type and are reported.
-/
namespace ApiTypes
namespace Vocabulary

def numbers (numerals : List Text) : TypeExpr := .union (numerals.map .number)

def table : List (Text × TypeExpr) :=
  [("array of strings", .array (.name "string")),
   ("boolean", .name "boolean"),
   ("array of integers", .array (.name "number")),
   ("array of epoch timestamp (in seconds)", .array (.name "number")),
   ("epoch timestamp (in seconds)", .name "number"),
   ("integer", .name "number"),
   ("number (with floating point)", .name "number"),
   ("integer or number (with floating point)", .name "number"),
   ("numberboolean (0 for false, 1 for true)", numbers ["0", "1"]),
   ("1 or 1.25", numbers ["1", "1.25"]),
   ("1 or 1.5", numbers ["1", "1.5"]),
   ("1 or 2", numbers ["1", "2"]),
   ("string", .name "string"),
   ("date (yyyy-dd-mm hh:mm:ss)", .name "string"),
   ("date (yyyy-mm-dd hh:mm:ss)", .name "string"),
   ("integer + string", .union [.name "number", .name "string"]),
   ("integer + (empty) string", .union [.name "number", .literal []]),
   ("key-value map", .apply "Record" [.name "string", .name "any"]),
   ("unknown", .unknown),
   ("unknown, let us know what it looks like.", .unknown)]

def find? (token : Text) : List (Text × TypeExpr) → Option TypeExpr
  | [] => none
  | (words, type) :: rest => if words = token then some type else find? token rest

def type? (token : Text) : Option TypeExpr := find? token.lower table

def unknownToken (token : Text) : Diagnostic := .warning "W001" ("Unknown type: " ++ token)

/-- The type of a token; one outside the vocabulary is reported. -/
def type (token : Text) : Reported TypeExpr :=
  match type? token with
  | some t => pure t
  | none => do
    Reported.report (unknownToken token)
    return .unknown

end Vocabulary
end ApiTypes
