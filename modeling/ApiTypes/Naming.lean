import ApiTypes.Schema
import ApiTypes.Text.Blank
import ApiTypes.Text.Case
/-!
# Names of declared types

The display name of a structure or a selection becomes one word with a capital for each part, and
the section's name goes in front of it.
-/
namespace ApiTypes
namespace Naming

def isDropped (c : Char) : Bool := c = ',' || c = '&'

def isSeparator (c : Char) : Bool := isBlank c || c = '-' || c = '_'

def parts (name : Text) : List Text :=
  Text.tokens isSeparator (name.filter (fun c => !isDropped c))

/-- The parts run together, each with a capital in front and small letters behind. -/
def sanitize (name : Text) : Text := (parts name).flatMap Text.titleCase

def sectionPrefix (name : Text) : Text := name.capitalize

def structureName (stem : Text) (s : Structure) : Text :=
  stem ++ "V1" ++ sanitize s.name

def responseName (stem : Text) (s : Selection) : Text :=
  stem ++ "V1" ++ sanitize s.name ++ "Response"

end Naming
end ApiTypes
