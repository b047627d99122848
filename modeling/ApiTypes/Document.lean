import ApiTypes.Failure
import ApiTypes.Json.Parse
import ApiTypes.Schema.Decode
/-!
# Reading documents

A document is read in two steps that fail in their own ways: the text may be no JSON, and the JSON
may be no such document.  Messages name the document by what it is.
-/
namespace ApiTypes
namespace Document

def parse (t : Text) : Except Failure Json := (Json.parse t).mapError .invalidJson

/-- The value of a document, which messages call `what`. -/
def decode {α : Type} (what : Text) (read : Decoder α) (v : Json) : Except Failure α :=
  (read v).mapError (fun fault => .invalidDocument what (.misshapen fault))

def isUrl (place : Text) : Bool :=
  "http://".toList.isPrefixOf place || "https://".toList.isPrefixOf place

def sectionListName : Text := "section list"

def errorTableName : Text := "error table"

def schemaName (name : Text) : Text := "schema of section '" ++ name ++ "'"

def sectionList (v : Json) : Except Failure (List Text) :=
  decode sectionListName decodeSectionList v

def errorTable (v : Json) : Except Failure (List ErrorEntry) :=
  decode errorTableName decodeErrorTable v

def sectionSchema (name : Text) (v : Json) : Except Failure (List Selection) :=
  decode (schemaName name) decodeSectionSchema v

end Document
end ApiTypes
