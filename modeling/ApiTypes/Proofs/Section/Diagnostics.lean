import ApiTypes.Proofs.Schema.Depth
import ApiTypes.Proofs.Section.Items
import Mathlib.Data.List.Basic
/-!
# What a section reports

Every shown node of a section is read once, and a node is reported just if it names a basic type by
a token outside the vocabulary.  So the diagnostics of a section can be read off the list of its
shown nodes (`diagnostics_sectionText`): nothing that is shown goes unreported, and nothing that is
left out is.
-/
namespace ApiTypes

/-! ## The nodes that are shown -/

mutual

/-- A node and the nodes inside it, depth first and in order. -/
def Node.nodes : Node → List Node
  | .object m fields => .object m fields :: Fields.nodes fields
  | .primitive m token => [.primitive m token]
  | .reference m id tag => [.reference m id tag]
  | .unknown m => [.unknown m]

def Fields.nodes : Fields → List Node
  | [] => []
  | (_, node) :: rest => node.nodes ++ Fields.nodes rest

end

/-- The fields that an item shows.  A structure with values shows no field. -/
def Item.fields : Item → Fields
  | .first _ s =>
    match s.values with
    | some _ => []
    | none => Fields.shown (s.schema.getD [])
  | .response s => Fields.shown s.schema

def shownNodes (name : Text) (selections : List Selection) : List Node :=
  (items (Naming.sectionPrefix name) [] selections).flatMap (fun i => i.fields.nodes)

/-- What there is to report on a node itself: that a basic type is not in the vocabulary. -/
def Node.remark? : Node → Option Diagnostic
  | .primitive _ token =>
    if (Vocabulary.table.map Prod.fst).contains token.lower then none
    else some ⟨.warning, "W001", "Unknown type: " ++ token⟩
  | _ => none

/-! ## Nodes are reported one by one -/

namespace Vocabulary

theorem isSome_find? (token : Text) : ∀ l : List (Text × TypeExpr),
    (find? token l).isSome = true ↔ token ∈ l.map Prod.fst
  | [] => by simp [find?]
  | (words, type) :: rest => by
    rw [find?, List.map_cons, List.mem_cons, ← isSome_find? token rest]
    by_cases h : words = token
    · simp [h]
    · simp [h, Ne.symm h]

theorem diagnostics_type (token : Text) :
    (type token).diagnostics =
      if (table.map Prod.fst).contains token.lower then [] else [unknownToken token] := by
  rw [type, type?]
  cases h : find? token.lower table with
  | some t =>
    rw [if_pos (List.contains_iff_mem.2 ((isSome_find? _ _).1 (by rw [h]; rfl)))]
    rfl
  | none =>
    rw [if_neg (fun hm => by simpa [h] using (isSome_find? _ _).2 (List.contains_iff_mem.1 hm))]
    rfl

end Vocabulary

namespace Scope

mutual

/-- **Reading a node reports on the nodes in it, one by one.**  The scope has no part in it: a
reference reports nothing, whether it resolves or not. -/
theorem diagnostics_typeOf (scope : Scope) : ∀ node : Node,
    (scope.typeOf node).diagnostics = node.nodes.filterMap Node.remark?
  | .primitive m token => by
    rw [typeOf, Reported.diagnostics_bind, Reported.diagnostics_pure, List.append_nil,
      Vocabulary.diagnostics_type, Node.nodes, List.filterMap_cons, List.filterMap_nil, Node.remark?]
    split <;> rfl
  | .reference _ _ _ => rfl
  | .object m fields => by
    rw [typeOf, Reported.diagnostics_bind, Reported.diagnostics_pure, List.append_nil,
      diagnostics_typesOf scope fields, Node.nodes, List.filterMap_cons_none rfl]
  | .unknown _ => rfl

theorem diagnostics_typesOf (scope : Scope) : ∀ fields : Fields,
    (scope.typesOf fields).diagnostics = fields.nodes.filterMap Node.remark?
  | [] => rfl
  | (key, node) :: rest => by
    rw [typesOf, Reported.diagnostics_bind, Reported.diagnostics_bind, Reported.diagnostics_pure,
      List.append_nil, diagnostics_typeOf scope node, diagnostics_typesOf scope rest, Fields.nodes,
      List.filterMap_append]

end

end Scope

theorem Fields.diagnostics_members (scope : Scope) (fields : Fields) :
    (fields.members scope).diagnostics = fields.shown.nodes.filterMap Node.remark? := by
  rw [members_eq, Reported.diagnostics_bind, Reported.diagnostics_pure, List.append_nil,
    Scope.diagnostics_typesOf]

theorem Item.diagnostics_declare (stem : Text) : ∀ i : Item,
    (i.declare stem).diagnostics = i.fields.nodes.filterMap Node.remark?
  | .first home s => by
    rw [Item.declare, Item.fields, Structure.declare, Reported.diagnostics_bind,
      Reported.diagnostics_pure, List.append_nil]
    cases s.values with
    | some values => rfl
    | none =>
      cases s.schema with
      | none => rfl
      | some fields =>
        rw [Reported.diagnostics_bind, Reported.diagnostics_pure, List.append_nil,
          Fields.diagnostics_members, Option.getD_some]
  | .response s => by
    rw [Item.declare, Item.fields, Selection.declareResponse, Reported.diagnostics_bind,
      Reported.diagnostics_bind, Reported.diagnostics_pure, Reported.diagnostics_pure,
      List.append_nil, List.append_nil, Fields.diagnostics_members]

/-- **What a section reports, exactly.**  In order, one warning for each shown node that names a
basic type by a token outside the vocabulary, and nothing else. -/
theorem diagnostics_sectionText (name : Text) (selections : List Selection) :
    (sectionText name selections).diagnostics =
      (shownNodes name selections).filterMap Node.remark? := by
  rw [diagnostics_sectionText_items, shownNodes, List.filterMap_flatMap]
  exact List.flatMap_congr (fun i _ => i.diagnostics_declare _)

end ApiTypes
