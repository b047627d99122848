import ApiTypes.Member
/-!
# What a node holds at every depth

The field names and the references of a node, those of objects spelled out in place included.  The
type of a node depends on its scope through its references only (`typeOf_congr`).
-/
namespace ApiTypes

mutual

def Node.keys : Node → List Text
  | .object _ fields => Fields.keys fields
  | .primitive _ _ => []
  | .reference _ _ _ => []
  | .unknown _ => []

def Fields.keys : Fields → List Text
  | [] => []
  | (key, node) :: rest => key :: node.keys ++ Fields.keys rest

end

mutual

def Node.references : Node → List (Text × ReferenceTag)
  | .reference _ id tag => [(id, tag)]
  | .object _ fields => Fields.references fields
  | .primitive _ _ => []
  | .unknown _ => []

def Fields.references : Fields → List (Text × ReferenceTag)
  | [] => []
  | (_, node) :: rest => node.references ++ Fields.references rest

end

theorem Fields.keys_eq_flatMap : ∀ fields : Fields,
    fields.keys = fields.flatMap (fun f => f.1 :: f.2.keys)
  | [] => rfl
  | (key, node) :: rest => by
    rw [Fields.keys, Fields.keys_eq_flatMap rest, List.flatMap_cons]

theorem Fields.references_eq_flatMap : ∀ fields : Fields,
    fields.references = fields.flatMap (fun f => f.2.references)
  | [] => rfl
  | (key, node) :: rest => by
    rw [Fields.references, Fields.references_eq_flatMap rest, List.flatMap_cons]

/-! ## The types of single nodes -/

namespace Vocabulary

theorem mem_of_find? (token : Text) : ∀ {l : List (Text × TypeExpr)} {t : TypeExpr},
    find? token l = some t → t ∈ l.map Prod.snd
  | [], _, h => by cases h
  | (words, type) :: rest, t, h => by
    unfold find? at h
    split at h
    · cases h
      exact List.mem_cons_self
    · exact List.mem_cons_of_mem _ (mem_of_find? token h)

theorem value_type_mem (token : Text) :
    (type token).value ∈ TypeExpr.unknown :: table.map Prod.snd := by
  unfold type
  split
  · rename_i t ht
    exact List.mem_cons_of_mem _ (mem_of_find? token.lower ht)
  · exact List.mem_cons_self

end Vocabulary

namespace Scope

theorem referenceType_cases (scope : Scope) (id : Text) (tag : ReferenceTag) :
    (scope.structure? id = none ∧ scope.referenceType id tag = .unknown) ∨
    ∃ s, scope.structure? id = some s ∧
      ((∃ values, tag = .enum ∧ s.values = some values ∧
          scope.referenceType id tag = .ofLiterals values) ∨
        (¬ (tag = .enum ∧ s.values.isSome = true) ∧
          scope.referenceType id tag = .name (Naming.structureName scope.stem s))) := by
  unfold referenceType
  cases hs : scope.structure? id with
  | none => exact Or.inl ⟨rfl, rfl⟩
  | some s =>
    refine Or.inr ⟨s, rfl, ?_⟩
    cases hv : s.values with
    | none => exact Or.inr ⟨by simp, by cases tag <;> simp [hv]⟩
    | some values =>
      cases tag with
      | enum => exact Or.inl ⟨values, rfl, rfl, by simp [hv]⟩
      | object => exact Or.inr ⟨by simp, by simp⟩
      | other => exact Or.inr ⟨by simp, by simp⟩

theorem value_typesOf (scope : Scope) : ∀ fields : Fields,
    (scope.typesOf fields).value = fields.map (fun f => (f.1, (scope.typeOf f.2).value))
  | [] => rfl
  | (key, node) :: rest => by
    simp only [typesOf, Reported.value_bind, Reported.value_pure, List.map_cons,
      value_typesOf scope rest]

mutual

/-- **Two scopes that show every reference in a node alike give it the same type.** -/
theorem typeOf_congr {a b : Scope} : ∀ node : Node,
    (∀ r ∈ node.references, a.referenceType r.1 r.2 = b.referenceType r.1 r.2) →
      a.typeOf node = b.typeOf node
  | .primitive _ _, _ => rfl
  | .reference _ id tag, h => by
    have hr : a.referenceType id tag = b.referenceType id tag := h (id, tag) List.mem_cons_self
    rw [typeOf, typeOf, hr]
  | .object _ fields, h => by rw [typeOf, typeOf, typesOf_congr fields h]
  | .unknown _, _ => rfl

theorem typesOf_congr {a b : Scope} : ∀ fields : Fields,
    (∀ r ∈ fields.references, a.referenceType r.1 r.2 = b.referenceType r.1 r.2) →
      a.typesOf fields = b.typesOf fields
  | [], _ => rfl
  | (key, node) :: rest, h => by
    rw [typesOf, typesOf, typeOf_congr node (fun r hr => h r (List.mem_append_left _ hr)),
      typesOf_congr rest (fun r hr => h r (List.mem_append_right _ hr))]

end

end Scope

namespace Fields

/-- The fields whose types an interface shows: the fixed ones and then the wildcard, but of several
wildcards only these. -/
def shown (fields : Fields) : Fields :=
  if 1 < (fields.filter isWildcard).length then fields.filter isWildcard
  else fields.filter (fun f => !isWildcard f) ++ fields.filter isWildcard

theorem mem_of_mem_shown {fields : Fields} {f : Text × Node} (h : f ∈ fields.shown) :
    f ∈ fields := by
  unfold shown at h
  split at h
  · exact (List.mem_filter.1 h).1
  · rcases List.mem_append.1 h with h | h <;> exact (List.mem_filter.1 h).1

/-- The members that the types of the shown fields make: one wildcard over all of them if there are
several wildcards, else one member for each. -/
def asMembers (fields : Fields) (types : List (Text × TypeExpr)) : List Member :=
  if 1 < (fields.filter isWildcard).length then
    [⟨.wildcard "key", .union (distinct [] (types.map Prod.snd))⟩]
  else types.map (fun f => ⟨.ofName f.1, f.2⟩)

theorem ownMembers_eq (scope : Scope) : ∀ fields : Fields,
    ownMembers scope fields = (do
      let types ← scope.typesOf fields
      return types.map (fun f => ⟨.ofName f.1, f.2⟩))
  | [] => rfl
  | (name, node) :: rest => by
    simp only [ownMembers, Scope.typesOf, ownMembers_eq scope rest, bind_assoc, pure_bind,
      List.map_cons]

/-- **The members of an interface are made from the types of the shown fields**, and nothing else
of the fields is looked at. -/
theorem members_eq (scope : Scope) (fields : Fields) :
    fields.members scope = (do
      let types ← scope.typesOf fields.shown
      return fields.asMembers types) := by
  by_cases hw : 1 < (fields.filter isWildcard).length
  · simp only [members, shown, asMembers, if_pos hw]
  · simp only [members, shown, asMembers, if_neg hw, ownMembers_eq]

theorem members_congr {a b : Scope} {fields : Fields}
    (h : ∀ r ∈ fields.shown.references, a.referenceType r.1 r.2 = b.referenceType r.1 r.2) :
    fields.members a = fields.members b := by
  rw [members_eq, members_eq, Scope.typesOf_congr _ h]

theorem mem_of_mem_distinct : ∀ (ts : List TypeExpr) (before : List Text) {t : TypeExpr},
    t ∈ distinct before ts → t ∈ ts
  | [], _, _, h => h
  | u :: rest, before, t, h => by
    unfold distinct at h
    split at h
    · exact List.mem_cons_of_mem u (mem_of_mem_distinct rest _ h)
    · rcases List.mem_cons.1 h with rfl | h
      · exact List.mem_cons_self
      · exact List.mem_cons_of_mem u (mem_of_mem_distinct rest _ h)

/-- **A member in two cases**: it is a field with its type, or the one wildcard of an interface with
several, whose type is a union of types of fields. -/
theorem of_mem_members {scope : Scope} {fields : Fields} {m : Member}
    (h : m ∈ (fields.members scope).value) :
    (∃ f ∈ fields, m = ⟨.ofName f.1, (scope.typeOf f.2).value⟩) ∨
      ∃ ts, m = ⟨.wildcard "key", .union ts⟩ ∧
        ∀ t ∈ ts, ∃ f ∈ fields, (scope.typeOf f.2).value = t := by
  rw [members_eq, Reported.value_bind, Reported.value_pure, Scope.value_typesOf, asMembers,
    List.map_map, List.map_map] at h
  split at h
  · rw [List.mem_singleton] at h
    refine Or.inr ⟨_, h, fun t ht => ?_⟩
    obtain ⟨f, hf, e⟩ := List.mem_map.1 (mem_of_mem_distinct _ _ ht)
    exact ⟨f, mem_of_mem_shown hf, e⟩
  · obtain ⟨f, hf, e⟩ := List.mem_map.1 h
    exact Or.inl ⟨f, mem_of_mem_shown hf, e.symm⟩

end Fields
end ApiTypes
