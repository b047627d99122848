import ApiTypes.Schema
import ApiTypes.Text.Blank
import ApiTypes.Text.Case
/-!
# The enumeration of error codes

A message becomes a constant name: in capitals, without the characters that no name holds and
without the words that say little, and cut off after five words.  Different messages may come to the
same name, and a message may come to the empty one.
-/
namespace ApiTypes
namespace ErrorEnum

def stopWords : List Text :=
  ["IS", "IN", "THE", "OF", "THIS", "IDENTITY", "PLEASE", "TRY", "DUE", "OWNER", "AGAIN"]

def wordLimit : Nat := 5

/-- Characters that stay in a message: letters and digits of ASCII, the underscore, and white
space. -/
def isKept (c : Char) : Bool := c.isAlphanum || c = '_' || isBlank c

/-- The words of a message, in capitals, without the stop words. -/
def significantWords (message : Text) : List Text :=
  (Text.words (message.upper.filter isKept)).filter (fun w => !stopWords.contains w)

def constantName (message : Text) : Text :=
  Text.join ['_'] ((significantWords message).take wordLimit)

def memberLine (entry : ErrorEntry) : Text :=
  constantName entry.message ++ " = " ++ Text.ofInt entry.code ++ ","

def render (entries : List ErrorEntry) : Text :=
  let opening : Text := "export enum TornApiError \x7b"
  Text.joinLines (opening :: entries.map memberLine ++ [['\x7d']])

end ErrorEnum
end ApiTypes
