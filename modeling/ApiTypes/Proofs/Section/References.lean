import ApiTypes.Proofs.Schema.Depth
import ApiTypes.Proofs.Section.Items
/-!
# What a reference by name points at

A reference that is shown by the type name of its structure points at the declaration under that
name.  A section declares under a name the first structure that has it, so the reference finds the
declaration of that structure: made in the scope of the selection that had it first, and missing if
it has no shape.
-/
namespace ApiTypes

open Naming (structureName)

/-- All references of a selection: those of its response and of the structures in its pool, at every
depth. -/
def Selection.references (s : Selection) : List (Text × ReferenceTag) :=
  Fields.references s.schema ++
    s.structures.flatMap (fun t => Fields.references (t.schema.getD []))

structure Scope.Names (scope : Scope) (r : Text × ReferenceTag) (s : Structure) : Prop where
  resolves : scope.structure? r.1 = some s
  shown : scope.referenceType r.1 r.2 = .name (structureName scope.stem s)

theorem Scope.Names.mem_pool {scope : Scope} {r : Text × ReferenceTag} {s : Structure}
    (h : scope.Names r s) : s ∈ scope.pool :=
  List.mem_of_find?_eq_some h.resolves

theorem exists_firstNamed (stem : Text) {selections : List Selection} {home : Selection}
    {s : Structure} (hhome : home ∈ selections) (hs : s ∈ home.structures) :
    ∃ p, firstNamed stem selections (structureName stem s) = some p := by
  rw [← Option.isSome_iff_exists, firstNamed, List.find?_isSome]
  refine ⟨(home, s), ?_, by simp⟩
  exact List.mem_flatMap.2 ⟨home, hhome, List.mem_map.2 ⟨s, hs, rfl⟩⟩

/-! ## When two structures declare the same -/

/-- Two structures, each in its own scope, with the same values or else the same fields, all of
whose references are shown alike. -/
structure Alike (stem : Text) (p q : Selection × Structure) : Prop where
  values : p.2.values = q.2.values
  schema : p.2.values = none → p.2.schema = q.2.schema
  references : p.2.values = none → ∀ r ∈ (Fields.shown (p.2.schema.getD [])).references,
    (p.1.scope stem).referenceType r.1 r.2 = (q.1.scope stem).referenceType r.1 r.2

theorem Alike.declaration?_eq {stem : Text} {p q : Selection × Structure} (h : Alike stem p q)
    (hname : structureName stem p.2 = structureName stem q.2) :
    p.2.declaration? stem p.1 = q.2.declaration? stem q.1 := by
  obtain ⟨hvalues, hschema, hrefs⟩ := h
  unfold Structure.declaration?
  rw [← hname, ← hvalues]
  cases hv : p.2.values with
  | some values => rfl
  | none =>
    rw [← hschema hv]
    have hrefs := hrefs hv
    cases hs : p.2.schema with
    | none => rfl
    | some fields =>
      rw [hs] at hrefs
      have hmembers : fields.members (p.1.scope stem) = fields.members (q.1.scope stem) :=
        Fields.members_congr hrefs
      simp only [hmembers]

/-- **What a reference by name finds.**  A section declares structures and one response for each
selection.  A reference in a response that is shown by the type name of a structure with a shape
finds, among the structures, the declaration that the first one of that name in the section has in
the scope of the selection that has it first, and none if that first structure has no shape.  It is
the structure's own declaration just if the two declare the same, as they do if they are alike. -/
theorem declarations_of_reference (name : Text) (selections : List Selection) :
    let stem := Naming.sectionPrefix name
    (sectionText name selections).value =
      renderDeclarations (sectionDeclarations name selections).value ∧
    (sectionDeclarations name selections).value.Perm
      (structureDeclarations stem selections ++
        selections.map (Selection.responseDeclaration stem)) ∧
    ∀ home ∈ selections, ∀ r ∈ Fields.references home.schema, ∀ s,
      (home.scope stem).Names r s → s.hasShape = true →
        ∃ p, firstNamed stem selections (structureName stem s) = some p ∧
          (structureDeclarations stem selections).filter
            (fun d => d.name = structureName stem s) = (p.2.declaration? stem p.1).toList ∧
          ((structureDeclarations stem selections).filter
              (fun d => d.name = structureName stem s) = (s.declaration? stem home).toList ↔
            p.2.declaration? stem p.1 = s.declaration? stem home) ∧
          (Alike stem p (home, s) → (structureDeclarations stem selections).filter
            (fun d => d.name = structureName stem s) = (s.declaration? stem home).toList) := by
  intro stem
  refine ⟨rfl, perm_sectionDeclarations name selections, fun home hhome r _ s hnames _ => ?_⟩
  obtain ⟨p, hp⟩ := exists_firstNamed stem hhome hnames.mem_pool
  have hname : structureName stem p.2 = structureName stem s := by
    simpa using List.find?_some hp
  have hdecl := filter_structureDeclarations stem selections (structureName stem s)
  rw [hp, Option.bind_some] at hdecl
  refine ⟨p, hp, hdecl, ?_, fun halike => ?_⟩
  · rw [hdecl]
    exact ⟨fun h => by simpa using congrArg List.head? h, fun h => by rw [h]⟩
  · rw [hdecl, halike.declaration?_eq hname]

def clashSelections : List Selection :=
  [⟨"profile", [], [], [], [⟨"1", "Status", none, some ["Okay"], none⟩]⟩,
    ⟨"basic", [], [], [("status", .reference .plain "7" .object)],
      [⟨"7", "status", none, some ["Other"], none⟩]⟩]

/-- **A reference need not find the declaration of its own structure**: the second `status` is
declared with the values of the first. -/
theorem not_declarations_of_reference_own :
    (sectionText "user" clashSelections).value =
      ("export type UserV1Status = \"Okay\";\n\n" ++
        "export interface UserV1ProfileResponse \x7b\n\x7d\n\n" ++
        "export interface UserV1BasicResponse \x7b\n    status: UserV1Status;\n\x7d\n" : Text) ∧
    ¬ ∀ (name : Text) (selections : List Selection), ∀ home ∈ selections,
      ∀ r ∈ Fields.references home.schema, ∀ s,
        (home.scope (Naming.sectionPrefix name)).Names r s → s.hasShape = true →
          ∃ d ∈ (sectionDeclarations name selections).value,
            s.declaration? (Naming.sectionPrefix name) home = some d := by
  refine ⟨by rw [value_sectionText]; decide +kernel, fun h => ?_⟩
  obtain ⟨d, hd, hown⟩ := h "user" clashSelections _ (List.mem_cons_of_mem _ List.mem_cons_self)
    ("7", .object) List.mem_cons_self ⟨"7", "status", none, some ["Other"], none⟩ ⟨rfl, rfl⟩ rfl
  rw [value_sectionDeclarations] at hd
  have htext := List.mem_map_of_mem (f := Declaration.render) hd
  cases hown
  revert htext
  decide

theorem declarations_of_reference_clash :
    (sectionDeclarations "user" clashSelections).value.filter
        (fun d => d.name = "UserV1Status".toList) =
      [.alias "UserV1Status" (.ofLiterals ["Okay"])] := by
  obtain ⟨-, hperm, hreferences⟩ := declarations_of_reference "user" clashSelections
  obtain ⟨p, hp, hdecl, -⟩ := hreferences _
    (List.mem_cons_of_mem _ List.mem_cons_self) ("7", .object) List.mem_cons_self
    ⟨"7", "status", none, some ["Other"], none⟩ ⟨rfl, rfl⟩ rfl
  cases hp
  have hfilter := hperm.filter (fun d => d.name = "UserV1Status".toList)
  rw [List.filter_append] at hfilter
  exact List.perm_singleton.1 (hfilter.trans (.of_eq (congrArg (· ++ []) hdecl)))

/-! ## The type names that a section mentions -/

mutual

def TypeExpr.names : TypeExpr → List Text
  | .name n => [n]
  | .apply n args => n :: TypeExpr.namesOf args
  | .literal _ => []
  | .number _ => []
  | .union members => TypeExpr.namesOf members
  | .array item => item.names
  | .group inner => inner.names
  | .object fields => TypeExpr.namesOfFields fields

def TypeExpr.namesOf : List TypeExpr → List Text
  | [] => []
  | t :: rest => t.names ++ TypeExpr.namesOf rest

def TypeExpr.namesOfFields : List (Text × TypeExpr) → List Text
  | [] => []
  | (_, t) :: rest => t.names ++ TypeExpr.namesOfFields rest

end

def TypeExpr.basicNames : List Text :=
  ["any", "boolean", "never", "null", "number", "Record", "string", "unknown"]

/-- The type names in a declaration, its own name apart. -/
def Declaration.mentions : Declaration → List Text
  | .alias _ t => t.names
  | .interface _ ms => ms.flatMap (fun m => m.type.names)

theorem TypeExpr.namesOf_eq_flatMap : ∀ ts : List TypeExpr, namesOf ts = ts.flatMap names
  | [] => rfl
  | t :: rest => by rw [namesOf, namesOf_eq_flatMap rest, List.flatMap_cons]

theorem TypeExpr.names_ofLiterals {values : List Text} {n : Text}
    (h : n ∈ (ofLiterals values).names) : n ∈ basicNames := by
  unfold ofLiterals at h
  split at h
  · rw [names, List.mem_singleton] at h
    rw [h]
    decide
  · rw [names, namesOf_eq_flatMap] at h
    obtain ⟨t, ht, h⟩ := List.mem_flatMap.1 h
    obtain ⟨v, -, rfl⟩ := List.mem_map.1 ht
    cases h

theorem Vocabulary.names_type {token n : Text} (h : n ∈ (type token).value.names) :
    n ∈ TypeExpr.basicNames := by
  have htable : ∀ t ∈ TypeExpr.unknown :: table.map Prod.snd, ∀ n ∈ t.names,
      n ∈ TypeExpr.basicNames := by decide
  exact htable _ (value_type_mem token) n h

theorem Modifiers.names_wrap {m : Modifiers} {t : TypeExpr} {n : Text}
    (h : n ∈ (m.wrap t).names) : n ∈ t.names ∨ n ∈ TypeExpr.basicNames := by
  have hnull : ("null" : Text) ∈ TypeExpr.basicNames := by decide
  obtain ⟨nullable, array⟩ := m
  cases nullable <;> cases array <;>
    simp only [wrap, TypeExpr.names, TypeExpr.namesOf, List.append_nil, List.mem_append,
      List.mem_singleton, Bool.false_eq_true, if_true, if_false] at h
  · exact Or.inl h
  · exact Or.inl h
  · rcases h with h | rfl
    · exact Or.inl h
    · exact Or.inr hnull
  · rcases h with h | rfl
    · exact Or.inl h
    · exact Or.inr hnull

namespace Scope

/-- A name is basic, or a reference among some is shown by it. -/
def Accounts (scope : Scope) (references : List (Text × ReferenceTag)) (n : Text) : Prop :=
  n ∈ TypeExpr.basicNames ∨
    ∃ r ∈ references, ∃ s, scope.Names r s ∧ n = structureName scope.stem s

theorem Accounts.mono {scope : Scope} {l k : List (Text × ReferenceTag)} {n : Text}
    (h : scope.Accounts l n) (hsub : ∀ r ∈ l, r ∈ k) : scope.Accounts k n :=
  h.imp_right (fun ⟨r, hr, s, hs⟩ => ⟨r, hsub r hr, s, hs⟩)

variable {scope : Scope}

theorem accounts_referenceType (id : Text) (tag : ReferenceTag) {n : Text}
    (h : n ∈ (scope.referenceType id tag).names) : scope.Accounts [(id, tag)] n := by
  rcases scope.referenceType_cases id tag with ⟨-, e⟩ | ⟨s, hs, ⟨values, -, -, e⟩ | ⟨-, e⟩⟩
  · rw [e, TypeExpr.unknown, TypeExpr.names, List.mem_singleton] at h
    exact Or.inl (h ▸ by decide)
  · rw [e] at h
    exact Or.inl (TypeExpr.names_ofLiterals h)
  · rw [e, TypeExpr.names, List.mem_singleton] at h
    exact Or.inr ⟨(id, tag), List.mem_singleton.2 rfl, s, ⟨hs, e⟩, h⟩

mutual

theorem accounts_typeOf : ∀ (node : Node) {n : Text},
    n ∈ (scope.typeOf node).value.names → scope.Accounts node.references n
  | .primitive m token, n, h => by
    rcases Modifiers.names_wrap h with h | h
    · exact Or.inl (Vocabulary.names_type h)
    · exact Or.inl h
  | .reference m id tag, n, h => by
    rcases Modifiers.names_wrap h with h | h
    · exact accounts_referenceType id tag h
    · exact Or.inl h
  | .object m fields, n, h => by
    rcases Modifiers.names_wrap h with h | h
    · exact accounts_typesOf fields h
    · exact Or.inl h
  | .unknown m, n, h => by
    rcases Modifiers.names_wrap h with h | h
    · rw [TypeExpr.unknown, TypeExpr.names, List.mem_singleton] at h
      exact Or.inl (h ▸ by decide)
    · exact Or.inl h

theorem accounts_typesOf : ∀ (fields : Fields) {n : Text},
    n ∈ TypeExpr.namesOfFields (scope.typesOf fields).value → scope.Accounts fields.references n
  | [], _, h => by cases h
  | (key, node) :: rest, n, h => by
    rcases List.mem_append.1 h with h | h
    · exact (accounts_typeOf node h).mono (fun r hr => List.mem_append_left _ hr)
    · exact (accounts_typesOf rest h).mono (fun r hr => List.mem_append_right _ hr)

end

end Scope

theorem Fields.accounts_members {scope : Scope} {fields : Fields} {n : Text}
    (h : n ∈ (fields.members scope).value.flatMap (fun m => m.type.names)) :
    scope.Accounts fields.references n := by
  have hfield : ∀ f ∈ fields, n ∈ (scope.typeOf f.2).value.names →
      scope.Accounts fields.references n := by
    intro f hf hn
    refine (Scope.accounts_typeOf f.2 hn).mono (fun r hr => ?_)
    rw [references_eq_flatMap]
    exact List.mem_flatMap.2 ⟨f, hf, hr⟩
  obtain ⟨m, hm, h⟩ := List.mem_flatMap.1 h
  rcases of_mem_members hm with ⟨f, hf, rfl⟩ | ⟨ts, rfl, hts⟩
  · exact hfield f hf h
  · rw [TypeExpr.names, TypeExpr.namesOf_eq_flatMap] at h
    obtain ⟨t, ht, h⟩ := List.mem_flatMap.1 h
    obtain ⟨f, hf, rfl⟩ := hts t ht
    exact hfield f hf h

/-- **Every type name that a section mentions** is basic or that of the structure which some
reference of the section is shown by. -/
theorem accounts_sectionDeclarations (name : Text) (selections : List Selection) :
    ∀ d ∈ (sectionDeclarations name selections).value, ∀ n ∈ d.mentions,
      n ∈ TypeExpr.basicNames ∨
        ∃ home ∈ selections, ∃ r ∈ home.references, ∃ s,
          (home.scope (Naming.sectionPrefix name)).Names r s ∧
            n = structureName (Naming.sectionPrefix name) s := by
  intro d hd n hn
  have hin : ∀ home ∈ selections, (home.scope (Naming.sectionPrefix name)).Accounts
      home.references n → n ∈ TypeExpr.basicNames ∨
        ∃ home ∈ selections, ∃ r ∈ home.references, ∃ s,
          (home.scope (Naming.sectionPrefix name)).Names r s ∧
            n = structureName (Naming.sectionPrefix name) s :=
    fun home hhome h => h.imp_right (fun hr => ⟨home, hhome, hr⟩)
  rw [value_sectionDeclarations] at hd
  obtain ⟨i, hi, hd⟩ := List.mem_flatMap.1 hd
  cases i with
  | first home s =>
    obtain ⟨hhome, hs⟩ := mem_of_first_mem_items _ selections [] hi
    rw [Item.value_declare_first, Option.mem_toList] at hd
    unfold Structure.declaration? at hd
    split at hd
    · cases hd
      exact Or.inl (TypeExpr.names_ofLiterals hn)
    · rename_i fields _ hf
      cases hd
      refine hin home hhome ((Fields.accounts_members hn).mono (fun r hr => ?_))
      exact List.mem_append_right _ (List.mem_flatMap.2 ⟨s, hs, by rw [hf]; exact hr⟩)
    · cases hd
  | response s =>
    have hs : s ∈ selections := mem_of_response_mem_items hi
    rw [List.mem_singleton.1 hd] at hn
    exact hin s hs ((Fields.accounts_members hn).mono (fun r hr => List.mem_append_left _ hr))

/-- **No dangling type name, but for structures without a shape.**  A section declares structures and
one response for each selection.  A reference that is shown by the type name of a structure, in a
response or in a structure of the pool, finds exactly one structure declaration of that name if the
first structure of the name has a shape, and none otherwise; and a section mentions no other type
names but the basic ones. -/
theorem references_declared_once (name : Text) (selections : List Selection) :
    let stem := Naming.sectionPrefix name
    (sectionText name selections).value =
      renderDeclarations (sectionDeclarations name selections).value ∧
    (sectionDeclarations name selections).value.Perm
      (structureDeclarations stem selections ++
        selections.map (Selection.responseDeclaration stem)) ∧
    (∀ home ∈ selections, ∀ r ∈ home.references, ∀ s, (home.scope stem).Names r s →
      ∃ p, firstNamed stem selections (structureName stem s) = some p ∧
        (structureDeclarations stem selections).countP (fun d => d.name = structureName stem s) =
          if p.2.hasShape then 1 else 0) ∧
    ∀ d ∈ (sectionDeclarations name selections).value, ∀ n ∈ d.mentions,
      n ∈ TypeExpr.basicNames ∨
        ∃ home ∈ selections, ∃ r ∈ home.references, ∃ s,
          (home.scope stem).Names r s ∧ n = structureName stem s := by
  intro stem
  refine ⟨rfl, perm_sectionDeclarations name selections, ?_,
    accounts_sectionDeclarations name selections⟩
  intro home hhome r _ s hnames
  obtain ⟨p, hp⟩ := exists_firstNamed stem hhome hnames.mem_pool
  refine ⟨p, hp, ?_⟩
  rw [List.countP_eq_length_filter, filter_structureDeclarations, hp, Option.bind_some,
    ← Structure.isSome_declaration? stem p.1]
  cases p.2.declaration? stem p.1 <;> rfl

/-- A pool with a structure without a shape in front of one of the same type name. -/
def shapelessSelections : List Selection :=
  [⟨"info", [], [], [("status", .reference .plain "b" .object)],
    [⟨"a", "Status", none, none, none⟩, ⟨"b", "status", none, some ["Okay"], none⟩]⟩]

/-- **A type name can dangle**: the structure without a shape takes the name and declares nothing. -/
theorem not_references_declared_once :
    (sectionText "user" shapelessSelections).value =
      ("export interface UserV1InfoResponse \x7b\n    status: UserV1Status;\n\x7d\n" : Text) ∧
    ¬ ∀ (name : Text) (selections : List Selection), ∀ home ∈ selections, ∀ r ∈ home.references,
      ∀ s, (home.scope (Naming.sectionPrefix name)).Names r s →
        ∃ d ∈ (sectionDeclarations name selections).value,
          d.name = structureName (Naming.sectionPrefix name) s := by
  refine ⟨by rw [value_sectionText]; decide +kernel, fun h => ?_⟩
  have hdeclared := h "user" shapelessSelections _ List.mem_cons_self ("b", .object)
    List.mem_cons_self ⟨"b", "status", none, some ["Okay"], none⟩ ⟨rfl, rfl⟩
  rw [value_sectionDeclarations] at hdeclared
  revert hdeclared
  decide

theorem references_declared_once_shapeless :
    (∀ d ∈ (sectionDeclarations "user" shapelessSelections).value, d.name ≠ "UserV1Status".toList) ∧
    (sectionDeclarations "user" clashSelections).value.countP
      (fun d => d.name = "UserV1Status".toList) = 1 := by
  constructor
  · obtain ⟨-, hperm, hreferences, -⟩ := references_declared_once "user" shapelessSelections
    obtain ⟨p, hp, hcount⟩ := hreferences _
      List.mem_cons_self ("b", .object) List.mem_cons_self
      ⟨"b", "status", none, some ["Okay"], none⟩ ⟨rfl, rfl⟩
    cases hp
    intro d hd hname
    rcases List.mem_append.1 (hperm.mem_iff.1 hd) with hd | hd
    · exact List.countP_eq_zero.1 hcount d hd (decide_eq_true hname)
    · rw [List.mem_singleton.1 hd] at hname
      revert hname
      decide
  · obtain ⟨-, hperm, hreferences, -⟩ := references_declared_once "user" clashSelections
    obtain ⟨p, hp, hcount⟩ := hreferences _
      (List.mem_cons_of_mem _ List.mem_cons_self) ("7", .object) List.mem_cons_self
      ⟨"7", "status", none, some ["Other"], none⟩ ⟨rfl, rfl⟩
    cases hp
    rw [hperm.countP_eq, List.countP_append]
    exact congrArg (· + 0) hcount

end ApiTypes
