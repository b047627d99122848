import ApiTypes.Proofs.Schema.Members
import ApiTypes.Proofs.TypeExpr.Identifier
import Mathlib.Data.List.Nodup
/-!
# The keys of fields

A key stands for a field name if it is the name, as an identifier, or a string literal of the name on
one line.  The keys of fixed fields follow a rule of their own: a name is quoted for its first digit,
its white space and its hyphens, and else it is written as it is.  So a key stands for its field just
if the name is an identifier, or is quoted and holds no line break (`denotes_renderKey_iff`), and two
names share a key just if one is written as the literal of the other (`renderKey_eq_iff`).
-/
namespace ApiTypes

namespace TypeExpr

/-- Characters that end a line, and so end a string literal too. -/
def isLineBreak (c : Char) : Bool := c = '\n' || c = '\r' || c = '\u2028' || c = '\u2029'

/-- A key stands for a field name. -/
inductive Denotes (R : IdentifierRule) : Text → Text → Prop
  | identifier {name : Text} (h : R.accepts name = true) : Denotes R name name
  | literal {key name : Text} (h : unquote key = some name)
      (hline : key.any isLineBreak = false) : Denotes R key name

variable {R : IdentifierRule} {a b key name : Text}

theorem accepts_renderLiteral (v : Text) : R.accepts (renderLiteral v) = false := by
  have hquote : R.starts '"' = false := by
    rw [R.starts_ascii '"' (by decide)]
    decide
  rw [renderLiteral, List.cons_append, IdentifierRule.accepts, hquote, Bool.false_and]

theorem Denotes.unique (ha : Denotes R key a) (hb : Denotes R key b) : a = b := by
  cases ha with
  | identifier ha =>
    cases hb with
    | identifier _ => rfl
    | literal hb _ =>
      rw [unquote_eq_some_iff.1 hb, accepts_renderLiteral] at ha
      cases ha
  | literal ha _ =>
    cases hb with
    | identifier hb =>
      rw [unquote_eq_some_iff.1 ha, accepts_renderLiteral] at hb
      cases hb
    | literal hb _ => exact Option.some.inj (ha.symm.trans hb)

/-! ## The key of a name -/

theorem renderKey_of_needsQuotes (h : needsQuotes name = true) :
    renderKey name = renderLiteral name :=
  if_pos h

theorem renderKey_of_not_needsQuotes (h : needsQuotes name = false) : renderKey name = name :=
  if_neg (Bool.not_eq_true _ ▸ h)

theorem length_le_flatMap_escapeChar : ∀ v : Text, v.length ≤ (v.flatMap escapeChar).length
  | [] => Nat.le_refl 0
  | c :: rest => by
    have hchar : 1 ≤ (escapeChar c).length := by
      unfold escapeChar
      split
      · exact Nat.le_succ 1
      · exact Nat.le_refl 1
    have ih := length_le_flatMap_escapeChar rest
    rw [List.flatMap_cons, List.length_append, List.length_cons]
    omega

theorem ne_renderLiteral (v : Text) : v ≠ renderLiteral v := by
  intro h
  have hlength := congrArg List.length h
  have hbody := length_le_flatMap_escapeChar v
  rw [renderLiteral, List.length_append, List.length_cons] at hlength
  omega

/-- Line breaks are not escaped. -/
theorem any_isLineBreak_renderLiteral (v : Text) :
    (renderLiteral v).any isLineBreak = v.any isLineBreak :=
  any_renderLiteral (by decide) (by decide) v

theorem denotes_renderKey_iff : Denotes R (renderKey name) name ↔
    R.accepts name = true ∨ needsQuotes name = true ∧ name.any isLineBreak = false := by
  cases hquotes : needsQuotes name with
  | true =>
    rw [renderKey_of_needsQuotes hquotes, and_iff_right rfl, ← any_isLineBreak_renderLiteral]
    constructor
    · intro h
      generalize hkey : renderLiteral name = key at h
      cases h with
      | identifier h => exact Or.inl h
      | literal _ hline => exact Or.inr hline
    · rintro (h | hline)
      · rw [IdentifierRule.needsQuotes_of_accepts h] at hquotes
        cases hquotes
      · exact .literal (unquote_renderLiteral name) hline
  | false =>
    rw [renderKey_of_not_needsQuotes hquotes]
    constructor
    · intro h
      generalize hkey : name = key at h
      cases h with
      | identifier h => exact Or.inl h
      | literal h _ =>
        exact absurd (unquote_eq_some_iff.1 (hkey ▸ h)) (ne_renderLiteral name)
    · rintro (h | ⟨h, -⟩)
      · exact .identifier h
      · cases h

/-- **When two names have one key**: the one is quoted, and the other is written as its literal. -/
theorem renderKey_eq_iff : renderKey a = renderKey b ↔ a = b ∨
    (needsQuotes a = true ∧ needsQuotes b = false ∧ b = renderLiteral a) ∨
    (needsQuotes b = true ∧ needsQuotes a = false ∧ a = renderLiteral b) := by
  have hne : needsQuotes a ≠ needsQuotes b → a ≠ b := fun h e => h (congrArg needsQuotes e)
  cases ha : needsQuotes a <;> cases hb : needsQuotes b
  · rw [renderKey_of_not_needsQuotes ha, renderKey_of_not_needsQuotes hb]
    simp
  · rw [renderKey_of_not_needsQuotes ha, renderKey_of_needsQuotes hb]
    simp [hne (by rw [ha, hb]; decide)]
  · rw [renderKey_of_needsQuotes ha, renderKey_of_not_needsQuotes hb]
    simp [hne (by rw [ha, hb]; decide), eq_comm]
  · rw [renderKey_of_needsQuotes ha, renderKey_of_needsQuotes hb]
    simp only [Bool.true_eq_false, false_and, and_false, or_false]
    exact ⟨renderLiteral_injective, congrArg renderLiteral⟩

end TypeExpr

namespace Fields

open TypeExpr (renderKey renderLiteral needsQuotes isLineBreak Denotes unquote)

theorem nodup_map_renderKey {names : List Text} (hnodup : names.Nodup)
    (hquote : ∀ n ∈ names, n.head? ≠ some '"') : (names.map renderKey).Nodup := by
  refine List.Nodup.map_on (fun a ha b hb h => ?_) hnodup
  rcases TypeExpr.renderKey_eq_iff.1 h with e | ⟨-, -, e⟩ | ⟨-, -, e⟩
  · exact e
  · exact absurd (e ▸ rfl) (hquote b hb)
  · exact absurd (e ▸ rfl) (hquote a ha)

/-- **What the keys of fixed fields stand for.**  A key stands for one name only.  A name that is quoted
is read back from its key, which has a line break just if the name has one; any other name is its own
key.  So the key stands for the name just if the name is an identifier, or is quoted and has no
line break; and two names share a key just if the one is quoted and the other, which is not, is
written as its literal.  These are the keys of the fixed fields of an interface and of all fields of
an object spelled out in place, where different names have different keys as long as none starts with
a quote. -/
theorem keys_of_fixed_fields (R : IdentifierRule) :
    (∀ key a b : Text, Denotes R key a → Denotes R key b → a = b) ∧
    (∀ name : Text, needsQuotes name = true → unquote (renderKey name) = some name ∧
      (renderKey name).any isLineBreak = name.any isLineBreak) ∧
    (∀ name : Text, needsQuotes name = false → renderKey name = name) ∧
    (∀ name : Text, Denotes R (renderKey name) name ↔
      R.accepts name = true ∨ needsQuotes name = true ∧ name.any isLineBreak = false) ∧
    (∀ a b : Text, renderKey a = renderKey b ↔ a = b ∨
      (needsQuotes a = true ∧ needsQuotes b = false ∧ b = renderLiteral a) ∨
      (needsQuotes b = true ∧ needsQuotes a = false ∧ a = renderLiteral b)) ∧
    (∀ (scope : Scope) (fields : Fields), fields.wild.length ≤ 1 →
      (fields.declarations scope).value =
        fields.fixed.map (fun f => renderKey f.1 ++ ": " ++ scope.fieldType f ++ ";") ++
          fields.wild.map scope.declaration) ∧
    (∀ (scope : Scope) (m : Modifiers) (fields : Fields),
      (scope.typeOf (.object m fields)).value.render =
        m.around (inBraces (fields.map (fun f => renderKey f.1 ++ ": " ++ scope.fieldType f)))) ∧
    ∀ fields : Fields, (fields.map Prod.fst).Nodup → (∀ f ∈ fields, f.1.head? ≠ some '"') →
      (fields.map (fun f => renderKey f.1)).Nodup := by
  refine ⟨fun _ _ _ => Denotes.unique, fun name h => ?_,
    fun _ => TypeExpr.renderKey_of_not_needsQuotes, fun _ => TypeExpr.denotes_renderKey_iff,
    fun _ _ => TypeExpr.renderKey_eq_iff, fun scope fields h => ?_,
    fun scope m fields => scope.render_typeOf_object m fields, fun fields hnodup hquote => ?_⟩
  · rw [TypeExpr.renderKey_of_needsQuotes h]
    exact ⟨TypeExpr.unquote_renderLiteral name, TypeExpr.any_isLineBreak_renderLiteral name⟩
  · rw [value_declarations_of_le h, List.map_append, map_declaration_fixed, List.map_map]
    rfl
  · have hkeys := nodup_map_renderKey hnodup (List.forall_mem_map.2 hquote)
    rwa [List.map_map] at hkeys

/-- **A key need not stand for its field**: a name with a point in it is not quoted. -/
theorem not_keys_of_fixed_fields :
    ¬ ∃ R : IdentifierRule, ∀ name : Text, MemberKey.wildcard? name = none →
      Denotes R (renderKey name) name := by
  rintro ⟨R, h⟩
  rcases TypeExpr.denotes_renderKey_iff.1 (h "a.b" rfl) with haccepts | ⟨hquotes, -⟩
  · rw [IdentifierRule.accepts_eq_isName (by decide)] at haccepts
    exact absurd haccepts (by decide)
  · exact absurd hquotes (by decide)

/-- A name with a backslash and a quote in it that is quoted for its white space, one that is quoted for
its digit, and one that is written as the literal of that. -/
def quotedFields : Fields :=
  [("say \\\"hi", .primitive .plain "string"), ("2fa", .primitive .plain "boolean"),
    ("$id_2", .primitive .plain "integer"), ("\"2fa\"", .primitive .plain "boolean")]

theorem keys_of_fixed_fields_quoted :
    Denotes .ascii (renderKey "say \\\"hi") "say \\\"hi" ∧
    Denotes .ascii (renderKey "$id_2") "$id_2" ∧
    ¬ Denotes .ascii (renderKey "a\n") "a\n" ∧ unquote (renderKey "a\n") = some "a\n".toList ∧
    renderKey "2fa" = renderKey "\"2fa\"" ∧
    (quotedFields.declarations itemScope).value =
      ["\"say \\\\\\\"hi\": string;", "\"2fa\": boolean;", "$id_2: number;", "\"2fa\": boolean;"] ∧
    (quotedFields.dropLast.map (fun f => renderKey f.1)).Nodup := by
  obtain ⟨-, hquoted, -, hdenotes, hshared, hdeclared, -, hnodup⟩ := keys_of_fixed_fields .ascii
  refine ⟨(hdenotes _).2 (Or.inr (by decide)), (hdenotes _).2 (Or.inl (by decide)), fun h => ?_,
    (hquoted _ (by decide)).1, (hshared _ _).2 (Or.inr (Or.inl (by decide))), ?_,
    hnodup _ (by decide) (by decide)⟩
  · exact absurd ((hdenotes _).1 h) (by decide)
  · rw [hdeclared itemScope quotedFields (by decide)]
    decide +kernel

end Fields
end ApiTypes
