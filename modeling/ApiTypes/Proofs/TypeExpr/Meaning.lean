import ApiTypes.Proofs.Schema.Depth
/-!
# What types and nodes mean

A type expression is a tree with the parentheses of its written form; its meaning is what is left
without them.  A node has a meaning of its own, read off the node and its scope, and it is the
meaning of the node's type (`meaning_typeOf`).
-/
namespace ApiTypes

/-- What a type expression means. -/
inductive Meaning where
  | name (n : Text)
  | apply (n : Text) (args : List Meaning)
  | literal (value : Text)
  | number (numeral : Text)
  | union (members : List Meaning)
  | array (item : Meaning)
  | object (fields : List (Text × Meaning))

namespace Meaning

def anyOf : List Meaning → Meaning
  | [m] => m
  | ms => .union ms

/-- A named type; the one without values is the union of nothing. -/
def ofName (n : Text) : Meaning := if n = "never".toList then .union [] else .name n

def unknown : Meaning := .name "unknown"

theorem anyOf_singleton (m : Meaning) : anyOf [m] = m := rfl

end Meaning

/-! ## Types -/

mutual

def TypeExpr.meaning : TypeExpr → Meaning
  | .name n => .ofName n
  | .apply n args => .apply n (TypeExpr.meanings args)
  | .literal value => .literal value
  | .number numeral => .number numeral
  | .union members => .anyOf (TypeExpr.meanings members)
  | .array item => .array item.meaning
  | .group inner => inner.meaning
  | .object fields => .object (TypeExpr.fieldMeanings fields)

def TypeExpr.meanings : List TypeExpr → List Meaning
  | [] => []
  | t :: rest => t.meaning :: TypeExpr.meanings rest

def TypeExpr.fieldMeanings : List (Text × TypeExpr) → List (Text × Meaning)
  | [] => []
  | (key, t) :: rest => (key, t.meaning) :: TypeExpr.fieldMeanings rest

end

theorem TypeExpr.meanings_eq_map : ∀ ts : List TypeExpr, meanings ts = ts.map meaning
  | [] => rfl
  | t :: rest => by rw [meanings, meanings_eq_map rest, List.map_cons]

/-! ## Nodes -/

/-- A meaning under modifiers: nullable first, and then array. -/
def Modifiers.apply (m : Modifiers) (base : Meaning) : Meaning :=
  let value := if m.nullable then .union [base, .name "null"] else base
  if m.array then .array value else value

def Vocabulary.meaning (token : Text) : Meaning :=
  match type? token with
  | some t => t.meaning
  | none => .unknown

/-- The meaning of a reference: the values themselves if it asks for an enumeration and the
structure has values, else the structure's type name; unknown if there is no structure. -/
def Scope.referenceMeaning (scope : Scope) (id : Text) (tag : ReferenceTag) : Meaning :=
  match scope.structure? id with
  | none => .unknown
  | some s =>
    match tag, s.values with
    | .enum, some values => .anyOf (values.map .literal)
    | _, _ => .name (Naming.structureName scope.stem s)

mutual

def Scope.meaning (scope : Scope) : Node → Meaning
  | .primitive m token => m.apply (Vocabulary.meaning token)
  | .reference m id tag => m.apply (scope.referenceMeaning id tag)
  | .object m fields => m.apply (.object (Scope.fieldMeanings scope fields))
  | .unknown m => m.apply .unknown

def Scope.fieldMeanings (scope : Scope) : Fields → List (Text × Meaning)
  | [] => []
  | (key, node) :: rest => (key, scope.meaning node) :: Scope.fieldMeanings scope rest

end

/-! ## The type of a node means what the node means -/

theorem Modifiers.meaning_wrap (m : Modifiers) (t : TypeExpr) :
    (m.wrap t).meaning = m.apply t.meaning := by
  obtain ⟨nullable, array⟩ := m
  cases nullable <;> cases array <;> rfl

theorem Vocabulary.meaning_type (token : Text) : (type token).value.meaning = meaning token := by
  unfold type meaning
  cases type? token <;> rfl

theorem TypeExpr.meaning_ofLiterals : ∀ values : List Text,
    (ofLiterals values).meaning = .anyOf (values.map .literal)
  | [] => rfl
  | v :: rest => by
    have hmap : meanings ((v :: rest).map TypeExpr.literal) = (v :: rest).map Meaning.literal := by
      rw [meanings_eq_map, List.map_map]
      rfl
    rw [ofLiterals, if_neg (by simp), TypeExpr.meaning, hmap]

theorem Naming.structureName_ne (stem : Text) (s : Structure) {t : Text} (h : '1' ∉ t) :
    Naming.structureName stem s ≠ t := by
  rintro rfl
  exact h (by simp [Naming.structureName])

namespace Scope

theorem meaning_referenceType (scope : Scope) (id : Text) (tag : ReferenceTag) :
    (scope.referenceType id tag).meaning = scope.referenceMeaning id tag := by
  have hname : ∀ s, (TypeExpr.name (Naming.structureName scope.stem s)).meaning =
      .name (Naming.structureName scope.stem s) :=
    fun s => if_neg (Naming.structureName_ne scope.stem s (by decide))
  unfold referenceType referenceMeaning
  cases scope.structure? id with
  | none => rfl
  | some s =>
    cases hv : s.values with
    | none => cases tag <;> simp [hv, hname]
    | some values => cases tag <;> simp [hv, hname, TypeExpr.meaning_ofLiterals]

mutual

/-- **The type of a node means what the node means.** -/
theorem meaning_typeOf (scope : Scope) : ∀ node : Node,
    (scope.typeOf node).value.meaning = scope.meaning node
  | .primitive m token => by
    rw [meaning, ← Vocabulary.meaning_type, ← Modifiers.meaning_wrap]
    rfl
  | .reference m id tag => by
    rw [meaning, ← meaning_referenceType, ← Modifiers.meaning_wrap]
    rfl
  | .object m fields => by
    rw [meaning, ← meaning_typesOf scope fields]
    exact Modifiers.meaning_wrap m (.object (scope.typesOf fields).value)
  | .unknown m => Modifiers.meaning_wrap m .unknown

theorem meaning_typesOf (scope : Scope) : ∀ fields : Fields,
    TypeExpr.fieldMeanings (scope.typesOf fields).value = scope.fieldMeanings fields
  | [] => rfl
  | (key, node) :: rest => by
    rw [fieldMeanings, ← meaning_typeOf scope node, ← meaning_typesOf scope rest]
    rfl

end

end Scope
end ApiTypes
