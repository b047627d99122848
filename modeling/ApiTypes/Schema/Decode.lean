import ApiTypes.Schema
import ApiTypes.Schema.Record
/-!
# The documents of a schema service

The section list, the error table and the schema of a section are records.  Descriptions may be left
out, as may the parts that a section, a selection or a structure has none of.
-/
namespace ApiTypes

/-- Structures are known by a text, whatever their id is written as. -/
def Structure.decode : Decoder Structure :=
  ((RecordReader.start Structure.mk).required "id" (Decoder.any Json.idText)
    |>.required "name" Decoder.text
    |>.optional "type" none (Decoder.nullable Decoder.text)
    |>.optional "values" none (Decoder.nullable (Decoder.list (Decoder.any Json.idText)))
    |>.optional "schema" none (Decoder.nullable (Decoder.any Fields.ofJson))).decode "Structure"

/-- A selection; its schema may be any value. -/
def Selection.decode : Decoder Selection :=
  ((RecordReader.start Selection.mk).required "name" Decoder.text
    |>.optional "description" [] Decoder.text
    |>.optional "access" [] Decoder.text
    |>.optional "schema" [] (Decoder.any Fields.ofJson)
    |>.optional "structures" [] (Decoder.list Structure.decode)).decode "Selection"

def ErrorEntry.decode : Decoder ErrorEntry :=
  ((RecordReader.start ErrorEntry.mk).required "code" Decoder.int64
    |>.required "message" Decoder.text
    |>.optional "description" [] Decoder.text).decode "ErrorEntry"

def decodeSectionList : Decoder (List Text) :=
  ((RecordReader.start id).required "sections" (Decoder.list Decoder.text)).decode "SectionList"

def decodeErrorTable : Decoder (List ErrorEntry) :=
  ((RecordReader.start id).required "errors" (Decoder.list ErrorEntry.decode)).decode "ErrorTable"

def decodeSectionSchema : Decoder (List Selection) :=
  ((RecordReader.start id).optional "selections" []
    (Decoder.list Selection.decode)).decode "SectionSchema"

end ApiTypes
