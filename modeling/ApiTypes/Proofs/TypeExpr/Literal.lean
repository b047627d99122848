import ApiTypes.TypeExpr
/-!
# Reading string literals

A literal ends at the first quote that no backslash stands in front of, so what it holds is read back
character by character, and a union of literals by reading one after the other.  Both readers accept
what is written and nothing else (`unquote_eq_some_iff`, `readUnion_eq_some_iff`).
-/
namespace ApiTypes

theorem Text.replaceAll_singleton (c : Char) (new : Text) : ∀ t : Text,
    replaceAll [c] new t = t.flatMap (fun d => if d = c then new else [d])
  | [] => rfl
  | d :: rest => by
    have ih := replaceAll_singleton c new rest
    have hstarts : [c].isPrefixOf (d :: rest) = true ↔ d = c := by
      rw [List.isPrefixOf_iff_prefix, List.cons_prefix_cons, and_iff_left List.nil_prefix, eq_comm]
    unfold replaceAll at ih ⊢
    rw [replaceFrom, List.flatMap_cons, ← ih]
    by_cases hd : d = c
    · rw [if_pos (hstarts.2 hd), if_pos hd]
      rfl
    · rw [if_neg (fun h => hd (hstarts.1 h)), if_neg hd]
      rfl

namespace TypeExpr

/-- **What stands between the quotes is made by two replacements.**  The backslashes come first: the
other way round, those in front of quotes would be doubled. -/
theorem flatMap_escapeChar_eq_replaceAll (v : Text) :
    v.flatMap escapeChar =
      Text.replaceAll ['"'] ['\\', '"'] (Text.replaceAll ['\\'] ['\\', '\\'] v) := by
  rw [Text.replaceAll_singleton, Text.replaceAll_singleton, List.flatMap_assoc]
  congr 1
  funext c
  by_cases hback : c = '\\'
  · rw [hback]
    rfl
  · by_cases hquote : c = '"'
    · rw [hquote]
      rfl
    · have hplain : escapeChar c = [c] := if_neg (by simp [hback, hquote])
      rw [hplain, if_neg hback, List.flatMap_singleton, if_neg hquote]

def isEscaped (c : Char) : Bool := c = '\\' || c = '"'

theorem escapeChar_of_isEscaped {c : Char} (h : isEscaped c = true) : escapeChar c = ['\\', c] :=
  if_pos h

theorem escapeChar_of_not_isEscaped {c : Char} (h : isEscaped c = false) : escapeChar c = [c] :=
  if_neg (Bool.not_eq_true _ ▸ h)

theorem isEscaped_eq_false_iff {c : Char} : isEscaped c = false ↔ c ≠ '\\' ∧ c ≠ '"' := by
  rw [isEscaped, Bool.or_eq_false_iff, decide_eq_false_iff_not, decide_eq_false_iff_not]

theorem any_flatMap_escapeChar {p : Char → Bool} (hback : p '\\' = false) : ∀ v : Text,
    (v.flatMap escapeChar).any p = v.any p
  | [] => rfl
  | c :: rest => by
    have hchar : (escapeChar c).any p = p c := by
      unfold escapeChar
      split
      · rw [List.any_cons, hback, Bool.false_or, List.any_cons, List.any_nil, Bool.or_false]
      · rw [List.any_cons, List.any_nil, Bool.or_false]
    rw [List.flatMap_cons, List.any_append, hchar, any_flatMap_escapeChar hback rest, List.any_cons]

theorem any_renderLiteral {p : Char → Bool} (hback : p '\\' = false) (hquote : p '"' = false)
    (v : Text) : (renderLiteral v).any p = v.any p := by
  rw [renderLiteral, List.any_append, List.any_cons, hquote, Bool.false_or,
    any_flatMap_escapeChar hback, List.any_cons, hquote, Bool.false_or, List.any_nil,
    Bool.or_false]

/-- Reads a literal behind its opening quote: its value, and what stands behind its closing quote.
`escaped` says that the character before was a backslash. -/
def readBody : (escaped : Bool) → Text → Option (Text × Text)
  | _, [] => none
  | true, c :: rest =>
    if isEscaped c then (readBody false rest).map (Prod.map (c :: ·) id) else none
  | false, c :: rest =>
    if c = '"' then some ([], rest)
    else if c = '\\' then readBody true rest
    else (readBody false rest).map (Prod.map (c :: ·) id)

theorem readBody_escapeChar (c : Char) (rest : Text) :
    readBody false (escapeChar c ++ rest) =
      (readBody false rest).map (Prod.map (c :: ·) id) := by
  cases hc : isEscaped c with
  | true =>
    rw [escapeChar_of_isEscaped hc]
    exact if_pos hc
  | false =>
    obtain ⟨hback, hquote⟩ := isEscaped_eq_false_iff.1 hc
    rw [escapeChar_of_not_isEscaped hc, List.singleton_append, readBody, if_neg hquote,
      if_neg hback]

/-- **A literal is read back**, whatever stands behind it. -/
theorem readBody_flatMap_escapeChar : ∀ v rest : Text,
    readBody false (v.flatMap escapeChar ++ '"' :: rest) = some (v, rest)
  | [], _ => rfl
  | c :: v, rest => by
    rw [List.flatMap_cons, List.append_assoc, readBody_escapeChar, readBody_flatMap_escapeChar v]
    rfl

theorem map_cons_eq_some {c : Char} {r : Option (Text × Text)} {v rest : Text}
    (h : r.map (Prod.map (c :: ·) id) = some (v, rest)) : ∃ w, v = c :: w ∧ r = some (w, rest) := by
  obtain ⟨⟨w, rest'⟩, rfl, hr⟩ := Option.map_eq_some_iff.1 h
  cases hr
  exact ⟨w, rfl, rfl⟩

theorem eq_of_readBody : ∀ {escaped : Bool} {t v rest : Text},
    readBody escaped t = some (v, rest) →
      (if escaped then '\\' :: t else t) = v.flatMap escapeChar ++ '"' :: rest
  | _, [], _, _, h => by cases h
  | true, c :: t, v, rest, h => by
    unfold readBody at h
    split at h
    · rename_i hc
      obtain ⟨w, rfl, hw⟩ := map_cons_eq_some h
      have ih := eq_of_readBody hw
      rw [if_neg Bool.false_ne_true] at ih
      rw [if_pos rfl, List.flatMap_cons, escapeChar_of_isEscaped hc, ih]
      rfl
    · cases h
  | false, c :: t, v, rest, h => by
    rw [if_neg Bool.false_ne_true]
    unfold readBody at h
    split at h
    · rename_i hquote
      cases h
      rw [hquote]
      rfl
    · rename_i hquote
      split at h
      · rename_i hback
        have ih := eq_of_readBody h
        rwa [if_pos rfl, ← hback] at ih
      · rename_i hback
        obtain ⟨w, rfl, hw⟩ := map_cons_eq_some h
        have ih := eq_of_readBody hw
        rw [if_neg Bool.false_ne_true] at ih
        rw [List.flatMap_cons, escapeChar_of_not_isEscaped (isEscaped_eq_false_iff.2 ⟨hback, hquote⟩),
          ih]
        rfl

theorem readBody_eq_some_iff {t v rest : Text} :
    readBody false t = some (v, rest) ↔ t = v.flatMap escapeChar ++ '"' :: rest :=
  ⟨eq_of_readBody, fun h => h ▸ readBody_flatMap_escapeChar v rest⟩

/-! ## A single literal -/

def unquote : Text → Option Text
  | [] => none
  | c :: rest =>
    if c = '"' then
      match readBody false rest with
      | some (v, []) => some v
      | _ => none
    else none

theorem unquote_renderLiteral (v : Text) : unquote (renderLiteral v) = some v := by
  rw [renderLiteral, List.cons_append, unquote, if_pos rfl, readBody_flatMap_escapeChar]

theorem unquote_eq_some_iff {t v : Text} : unquote t = some v ↔ t = renderLiteral v := by
  refine ⟨fun h => ?_, fun h => h ▸ unquote_renderLiteral v⟩
  unfold unquote at h
  split at h
  · cases h
  · rename_i c rest
    split at h
    · rename_i hquote
      split at h
      · rename_i w hbody
        cases h
        rw [hquote, readBody_eq_some_iff.1 hbody]
        rfl
      · cases h
    · cases h

theorem renderLiteral_injective {v w : Text} (h : renderLiteral v = renderLiteral w) : v = w :=
  Option.some.inj ((unquote_renderLiteral v).symm.trans (h ▸ unquote_renderLiteral w))

/-! ## Unions of literals -/

theorem renderList_eq_map : ∀ ts : List TypeExpr, renderList ts = ts.map render
  | [] => rfl
  | t :: rest => by rw [renderList, renderList_eq_map rest, List.map_cons]

theorem render_union (ts : List TypeExpr) :
    (union ts).render = Text.join " | " (ts.map render) := by
  rw [render, renderList_eq_map]

theorem render_ofLiterals {vs : List Text} (hne : vs ≠ []) :
    (ofLiterals vs).render = Text.join " | " (vs.map renderLiteral) := by
  have hempty : ¬ vs.isEmpty = true := by rwa [List.isEmpty_iff]
  rw [ofLiterals, if_neg hempty, render_union, List.map_map]
  rfl

theorem length_lt_of_readBody {t v rest : Text} (h : readBody false t = some (v, rest)) :
    rest.length < t.length := by
  rw [readBody_eq_some_iff.1 h, List.length_append, List.length_cons]
  omega

def readMembers (t : Text) : Option (List Text) :=
  match t with
  | [] => none
  | c :: body =>
    if c = '"' then
      match _hbody : readBody false body with
      | some (v, []) => some [v]
      | some (v, ' ' :: '|' :: ' ' :: rest) => (readMembers rest).map (v :: ·)
      | _ => none
    else none
termination_by t.length
decreasing_by
  have hlt := length_lt_of_readBody _hbody
  simp only [List.length_cons] at hlt ⊢
  omega

/-- The values that a union of literals is written for; the type without values is that of none. -/
def readUnion (t : Text) : Option (List Text) :=
  if t = "never".toList then some [] else readMembers t

theorem readMembers_renderLiteral (v : Text) : readMembers (renderLiteral v) = some [v] := by
  have hbody := readBody_flatMap_escapeChar v []
  rw [renderLiteral, List.cons_append, readMembers, if_pos rfl]
  split <;> simp_all

theorem readMembers_bar (v rest : Text) :
    readMembers (renderLiteral v ++ " | " ++ rest) = (readMembers rest).map (v :: ·) := by
  have hbody := readBody_flatMap_escapeChar v (" | " ++ rest)
  rw [renderLiteral, List.append_assoc, List.append_assoc, List.cons_append, readMembers, if_pos rfl]
  split <;> simp_all

theorem readMembers_join : ∀ {vs : List Text}, vs ≠ [] →
    readMembers (Text.join " | " (vs.map renderLiteral)) = some vs
  | [], hne => absurd rfl hne
  | [v], _ => by
    rw [List.map_singleton, Text.join_singleton, readMembers_renderLiteral]
  | v :: w :: rest, _ => by
    have ih := readMembers_join (List.cons_ne_nil w rest)
    rw [List.map_cons] at ih
    rw [List.map_cons, List.map_cons, Text.join_cons_cons, readMembers_bar, ih, Option.map_some]

theorem eq_join_of_readMembers {t : Text} {vs : List Text} (h : readMembers t = some vs) :
    vs ≠ [] ∧ t = Text.join " | " (vs.map renderLiteral) := by
  fun_induction readMembers t generalizing vs with
  | case1 => cases h
  | case2 body v hbody =>
    cases h
    rw [List.map_singleton, Text.join_singleton, readBody_eq_some_iff.1 hbody]
    exact ⟨List.cons_ne_nil v [], rfl⟩
  | case3 body v rest hbody ih =>
    obtain ⟨ws, hws, rfl⟩ := Option.map_eq_some_iff.1 h
    obtain ⟨hne, rfl⟩ := ih hws
    obtain ⟨w, ws, rfl⟩ := List.exists_cons_of_ne_nil hne
    rw [List.map_cons, List.map_cons, Text.join_cons_cons, readBody_eq_some_iff.1 hbody, renderLiteral,
      List.append_assoc, List.append_assoc]
    exact ⟨List.cons_ne_nil v _, rfl⟩
  | case4 => cases h
  | case5 => cases h

theorem readMembers_eq_some_iff {t : Text} {vs : List Text} :
    readMembers t = some vs ↔ vs ≠ [] ∧ t = Text.join " | " (vs.map renderLiteral) :=
  ⟨eq_join_of_readMembers, fun h => h.2 ▸ readMembers_join h.1⟩

theorem head?_render_ofLiterals : ∀ {vs : List Text}, vs ≠ [] →
    (ofLiterals vs).render.head? = some '"'
  | [], hne => absurd rfl hne
  | [v], hne => by
    rw [render_ofLiterals hne, List.map_singleton, Text.join_singleton]
    rfl
  | v :: w :: rest, hne => by
    rw [render_ofLiterals hne, List.map_cons, List.map_cons, Text.join_cons_cons]
    rfl

theorem render_ofLiterals_eq_never_iff {vs : List Text} :
    (ofLiterals vs).render = "never" ↔ vs = [] := by
  refine ⟨fun h => ?_, fun h => h ▸ rfl⟩
  by_cases hnil : vs = []
  · exact hnil
  · have hhead := head?_render_ofLiterals hnil
    rw [h] at hhead
    cases hhead

/-- **A text is the union of a list of literals just if it is written as one.** -/
theorem readUnion_eq_some_iff {t : Text} {vs : List Text} :
    readUnion t = some vs ↔ t = (ofLiterals vs).render := by
  unfold readUnion
  split
  · rename_i hnever
    rw [hnever, Option.some.injEq, eq_comm (b := (ofLiterals vs).render),
      render_ofLiterals_eq_never_iff, eq_comm]
  · rename_i hnever
    rw [readMembers_eq_some_iff]
    constructor
    · rintro ⟨hne, rfl⟩
      exact (render_ofLiterals hne).symm
    · intro ht
      have hne : vs ≠ [] := fun hnil =>
        hnever (ht.trans (render_ofLiterals_eq_never_iff.2 hnil))
      exact ⟨hne, ht.trans (render_ofLiterals hne)⟩

theorem readUnion_render (vs : List Text) : readUnion (ofLiterals vs).render = some vs :=
  readUnion_eq_some_iff.2 rfl

theorem render_ofLiterals_injective {vs ws : List Text}
    (h : (ofLiterals vs).render = (ofLiterals ws).render) : vs = ws :=
  Option.some.inj ((readUnion_render vs).symm.trans (h ▸ readUnion_render ws))

end TypeExpr
end ApiTypes
