import ApiTypes.Text
import ApiTypes.Text.CaseTable
/-!
# Upper and lower case

The full mapping of one character may be several characters.  Characters are mapped one at a time,
without regard to their neighbours; ASCII is answered without looking at the tables.
-/
namespace ApiTypes

/-- The full mapping of one character by a list of expansions and a list of runs, in this order. -/
def mapCase (expansions : List (Nat × List Nat)) (runs : List CaseRun) (c : Char) : Text :=
  match expansions.find? (fun e => e.1 == c.toNat) with
  | some e => e.2.map Char.ofNat
  | none =>
    match runs.find? (fun r => r.covers c.toNat) with
    | some r => [Char.ofNat (r.send c.toNat)]
    | none => [c]

def upperChar (c : Char) : Text :=
  if c.toNat < 128 then [c.toUpper] else mapCase upperExpansions upperRuns c

def lowerChar (c : Char) : Text :=
  if c.toNat < 128 then [c.toLower] else mapCase lowerExpansions lowerRuns c

namespace Text

def upper (t : Text) : Text := t.flatMap upperChar

def lower (t : Text) : Text := t.flatMap lowerChar

def capitalize : Text → Text
  | [] => []
  | c :: rest => upperChar c ++ rest

def titleCase : Text → Text
  | [] => []
  | c :: rest => upperChar c ++ lower rest

end Text
end ApiTypes
