import ApiTypes.Proofs.Schema.Members
import ApiTypes.Proofs.Section.Items
/-!
# The values of an enumeration

The values of a structure are written as a union of string literals, in the declaration of the
structure and wherever a reference asks for the values themselves.  The text is the same in both
places, and the values are read back from it (`enumerations_read_back`).
-/
namespace ApiTypes

open Naming (structureName)

/-! ## Where the type of a reference is written -/

theorem Text.infix_join (sep : Text) : ∀ {parts : List Text} {p : Text}, p ∈ parts →
    p <:+: join sep parts
  | [q], p, h => by
    have hp : join sep [q] = p := (join_singleton sep q).trans (List.mem_singleton.1 h).symm
    exact hp ▸ List.infix_rfl
  | q :: r :: rest, p, h => by
    rw [join_cons_cons]
    rcases List.mem_cons.1 h with rfl | h
    · exact ((List.prefix_append p sep).trans (List.prefix_append _ _)).isInfix
    · exact (infix_join sep h).trans (List.suffix_append _ _).isInfix

theorem infix_inBraces {members : List Text} {t : Text} (h : t ∈ members) :
    t <:+: inBraces members := by
  have hne : ¬ members.isEmpty = true := by
    rw [List.isEmpty_iff]
    exact List.ne_nil_of_mem h
  rw [inBraces, if_neg hne]
  exact (Text.infix_join "; " h).trans (List.infix_append _ _ _)

theorem Modifiers.infix_around (m : Modifiers) (t : Text) : t <:+: m.around t := by
  have hnullable : t <:+: (if m.nullable then "(" ++ t ++ ") | null" else t : Text) := by
    split
    · exact List.infix_append _ _ _
    · exact List.infix_rfl
  rw [around]
  split
  · exact hnullable.trans (List.infix_append _ _ _)
  · exact hnullable

namespace Scope

mutual

/-- **The type of a reference stands in the type of every node that holds it**, at any depth. -/
theorem infix_typeOf (scope : Scope) : ∀ (node : Node) {id : Text} {tag : ReferenceTag},
    (id, tag) ∈ node.references →
      (scope.referenceType id tag).render <:+: (scope.typeOf node).value.render
  | .primitive _ _, _, _, h => by cases h
  | .reference m id tag, _, _, h => by
    cases List.mem_singleton.1 h
    have htype : (scope.typeOf (.reference m id tag)).value = m.wrap (scope.referenceType id tag) :=
      rfl
    rw [htype, Modifiers.render_wrap]
    exact m.infix_around _
  | .object m fields, _, _, h => by
    obtain ⟨f, hf, hstands⟩ := infix_fieldType scope fields h
    have hmember : scope.fieldType f <:+: scope.memberInPlace f := (List.suffix_append _ _).isInfix
    rw [render_typeOf_object]
    exact (hstands.trans hmember).trans
      ((infix_inBraces (List.mem_map_of_mem hf)).trans (m.infix_around _))
  | .unknown _, _, _, h => by cases h

theorem infix_fieldType (scope : Scope) : ∀ (fields : Fields) {id : Text} {tag : ReferenceTag},
    (id, tag) ∈ fields.references →
      ∃ f ∈ fields, (scope.referenceType id tag).render <:+: scope.fieldType f
  | [], _, _, h => by cases h
  | (key, node) :: rest, _, _, h => by
    rcases List.mem_append.1 h with h | h
    · exact ⟨(key, node), List.mem_cons_self, infix_typeOf scope node h⟩
    · obtain ⟨f, hf, hstands⟩ := infix_fieldType scope rest h
      exact ⟨f, List.mem_cons_of_mem _ hf, hstands⟩

end

theorem referenceType_enum {scope : Scope} {id : Text} {s : Structure} {values : List Text}
    (hs : scope.structure? id = some s) (hv : s.values = some values) :
    scope.referenceType id .enum = .ofLiterals values := by
  simp only [referenceType, hs, hv]

end Scope

/-! ## Where the declaration of an enumeration is written -/

theorem mem_sectionDeclarations_of_values {name n : Text} {selections : List Selection}
    {home : Selection} {s : Structure} {values : List Text}
    (hfirst : firstNamed (Naming.sectionPrefix name) selections n = some (home, s))
    (hv : s.values = some values) :
    .alias n (.ofLiterals values) ∈ (sectionDeclarations name selections).value := by
  have hname : structureName (Naming.sectionPrefix name) s = n := by
    simpa using List.find?_some hfirst
  have hdecl : s.declaration? (Naming.sectionPrefix name) home =
      some (.alias n (.ofLiterals values)) := by
    simp only [Structure.declaration?, hv, hname]
  have hmem : Declaration.alias n (.ofLiterals values) ∈
      (structureDeclarations (Naming.sectionPrefix name) selections).filter
        (fun d => d.name = n) := by
    rw [filter_structureDeclarations, hfirst, Option.bind_some, hdecl]
    exact List.mem_singleton.2 rfl
  exact (perm_sectionDeclarations name selections).mem_iff.2
    (List.mem_append_left _ (List.mem_filter.1 hmem).1)

/-- **The values of an enumeration are read back from its text**, and from no other text.  A value is
written with a backslash in front of each backslash and each quote, and the reader takes these away;
so two lists of values have one text only if they are the same, and the text of none is that of the
empty list alone.  The text stands in the declaration of the first structure of a type name, and in
the type of every node with a reference that asks for the values. -/
theorem enumerations_read_back :
    (∀ v : Text, TypeExpr.renderLiteral v =
      '"' :: Text.replaceAll ['"'] ['\\', '"'] (Text.replaceAll ['\\'] ['\\', '\\'] v) ++ ['"']) ∧
    (∀ (t : Text) (vs : List Text),
      TypeExpr.readUnion t = some vs ↔ t = (TypeExpr.ofLiterals vs).render) ∧
    (∀ vs : List Text, (TypeExpr.ofLiterals vs).render = "never" ↔ vs = []) ∧
    (∀ vs ws : List Text,
      (TypeExpr.ofLiterals vs).render = (TypeExpr.ofLiterals ws).render → vs = ws) ∧
    (∀ (name n : Text) (selections : List Selection) (home : Selection) (s : Structure)
      (values : List Text),
      firstNamed (Naming.sectionPrefix name) selections n = some (home, s) →
        s.values = some values →
          ∃ d ∈ (sectionDeclarations name selections).value, d.name = n ∧
            d.render = "export type " ++ n ++ " = " ++ (TypeExpr.ofLiterals values).render ++ ";") ∧
    ∀ (scope : Scope) (id : Text) (s : Structure) (values : List Text),
      scope.structure? id = some s → s.values = some values →
        (∀ m : Modifiers, (scope.typeOf (.reference m id .enum)).value.render =
          m.around (TypeExpr.ofLiterals values).render) ∧
        ∀ node : Node, (id, .enum) ∈ node.references →
          (TypeExpr.ofLiterals values).render <:+: (scope.typeOf node).value.render := by
  refine ⟨fun v => ?_, fun _ _ => TypeExpr.readUnion_eq_some_iff,
    fun _ => TypeExpr.render_ofLiterals_eq_never_iff,
    fun _ _ => TypeExpr.render_ofLiterals_injective, ?_, ?_⟩
  · rw [TypeExpr.renderLiteral, TypeExpr.flatMap_escapeChar_eq_replaceAll]
  · intro name n selections home s values hfirst hv
    exact ⟨_, mem_sectionDeclarations_of_values hfirst hv, rfl, rfl⟩
  · intro scope id s values hs hv
    have htype : scope.referenceType id .enum = .ofLiterals values :=
      Scope.referenceType_enum hs hv
    refine ⟨fun m => ?_, fun node hnode => ?_⟩
    · have hreference : (scope.typeOf (.reference m id .enum)).value =
          m.wrap (scope.referenceType id .enum) := rfl
      rw [hreference, Modifiers.render_wrap, htype]
    · rw [← htype]
      exact scope.infix_typeOf node hnode

/-- Values that end in a backslash, hold a bar between quotes, are empty, or come twice. -/
def barredValues : List Text := ["\\", "\" | \"", "", "\\\"", "a", "a"]

def barredSelection : Selection :=
  ⟨"log", [], [], [("kind", .object .plain [("of", .reference ⟨true, true⟩ "7" .enum)])],
    [⟨"7", "Kind", none, some barredValues, none⟩]⟩

theorem enumerations_read_back_barred :
    (TypeExpr.ofLiterals barredValues).render =
      "\"\\\\\" | \"\\\" | \\\"\" | \"\" | \"\\\\\\\"\" | \"a\" | \"a\"" ∧
    TypeExpr.readUnion "\"\\\\\" | \"\\\" | \\\"\" | \"\" | \"\\\\\\\"\" | \"a\" | \"a\"" =
      some barredValues ∧
    (∃ d ∈ (sectionDeclarations "user" [barredSelection]).value, d.name = "UserV1Kind" ∧
      d.render = "export type UserV1Kind = ".toList ++
        (TypeExpr.ofLiterals barredValues).render ++ ";") ∧
    ((barredSelection.scope "User").typeOf (.reference ⟨true, true⟩ "7" .enum)).value.render =
      "((".toList ++ (TypeExpr.ofLiterals barredValues).render ++ ") | null)[]" ∧
    ∀ f ∈ barredSelection.schema, (TypeExpr.ofLiterals barredValues).render <:+:
      ((barredSelection.scope "User").typeOf f.2).value.render := by
  obtain ⟨-, hread, -, -, hdeclared, hshown⟩ := enumerations_read_back
  have htext : (TypeExpr.ofLiterals barredValues).render =
      "\"\\\\\" | \"\\\" | \\\"\" | \"\" | \"\\\\\\\"\" | \"a\" | \"a\"" := by decide +kernel
  obtain ⟨hreference, hinside⟩ :=
    hshown (barredSelection.scope "User") "7" ⟨"7", "Kind", none, some barredValues, none⟩
      barredValues rfl rfl
  refine ⟨htext, (hread _ _).2 htext.symm, ?_, ?_, fun f hf => ?_⟩
  · exact hdeclared "user" "UserV1Kind" [barredSelection] barredSelection _ barredValues rfl rfl
  · rw [hreference]
    simp [Modifiers.around]
  · rw [List.mem_singleton.1 hf]
    exact hinside _ List.mem_cons_self

end ApiTypes
