import ApiTypes.Document
/-!
# Types from an OpenAPI document

Making types of the document is left to a converter.  What comes back is tidied: members that take
any key are dropped, the empty intersection of an object that may be null becomes a union with null,
and no declaration is exported.  The replacements are made one after the other, each in one scan.
-/
namespace ApiTypes

abbrev Converter := Json → Except ConversionFault Text

namespace OpenApi

def catchAll : Text := "[key: string]: any;"

/-- The intersection written for an object that may be null. -/
def nullableIntersection : Text := "& (\x7b\n        \n    \x7d | null)"

def nullableUnion : Text := "| null"

def exportWord : Text := "export "

def tidy (t : Text) : Text :=
  Text.replaceAll exportWord []
    (Text.replaceAll nullableIntersection nullableUnion (Text.replaceAll catchAll [] t))

def text (origin converted : Text) : Text :=
  Text.joinLines
    ["// Auto-generated TypeScript types for Torn API V2", "// Generated from: " ++ origin, "",
      tidy converted]

def generate (converter : Converter) (origin : Text) (document : Json) : Except Failure Text := do
  let converted ← (converter document).mapError .conversion
  return text origin converted

def combine (first : Text) : (second : Option Text) → Text
  | some second => Text.joinLines [first, second]
  | none => first

end OpenApi
end ApiTypes
