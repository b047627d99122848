import ApiTypes.Proofs.Schema.Depth
import ApiTypes.Proofs.TypeExpr.Literal
import Mathlib.Data.List.Perm.Basic
/-!
# The members of an object

An object has the same fields, of the same types, whether it is declared as an interface or spelled
out in place.  What differs is what becomes of the fields whose names stand in angle brackets.  In an
interface they are wildcards: one of them stands last, and several become one over their types, with
the fixed fields left out (`declarations_of_fields`).  In place they are fields like any other
(`render_inPlace`).
-/
namespace ApiTypes

/-! ## Wildcards -/

/-- **A wildcard's name stands in angle brackets**, which are two characters and not one. -/
theorem MemberKey.wildcard?_eq_some_iff {name inside : Text} :
    wildcard? name = some inside ↔ name = '<' :: (inside ++ ['>']) := by
  unfold wildcard?
  split
  · rename_i rest
    rw [List.cons.injEq, and_iff_right rfl]
    split
    · rename_i hlast
      obtain ⟨front, rfl⟩ := List.getLast?_eq_some_iff.1 hlast
      rw [List.dropLast_concat, Option.some.injEq, List.append_left_inj]
    · rename_i hlast
      refine ⟨nofun, ?_⟩
      rintro rfl
      exact absurd List.getLast?_concat hlast
  · rename_i hname
    refine ⟨nofun, ?_⟩
    rintro rfl
    exact (hname _ rfl).elim

namespace Fields

def wild (fields : Fields) : Fields := fields.filter isWildcard

def fixed (fields : Fields) : Fields := fields.filter (fun f => !isWildcard f)

theorem isWildcard_iff (f : Text × Node) :
    isWildcard f = true ↔ ∃ inside, f.1 = '<' :: (inside ++ ['>']) := by
  rw [isWildcard, Option.isSome_iff_exists]
  exact exists_congr (fun _ => MemberKey.wildcard?_eq_some_iff)

theorem fixed_of_wild_eq_nil {fields : Fields} (h : fields.wild = []) : fields.fixed = fields :=
  List.filter_eq_self.2 (fun f hf => by simpa using List.filter_eq_nil_iff.1 h f hf)

theorem fixed_append_wild_perm (fields : Fields) : (fields.fixed ++ fields.wild).Perm fields :=
  List.perm_append_comm.trans (List.filter_append_perm isWildcard fields)

end Fields

/-! ## Texts that have come before are left out -/

/-- Of some texts, those that are left when each is kept where it comes first. -/
structure FirstSeen (all kept : List Text) : Prop where
  nodup : kept.Nodup
  mem_iff : ∀ t, t ∈ kept ↔ t ∈ all
  inOrder : kept.Pairwise (fun t u => all.idxOf t < all.idxOf u)

namespace FirstSeen

variable {all kept : List Text} {t : Text}

theorem inOrder_concat (h : FirstSeen all kept) (t : Text) :
    kept.Pairwise (fun u v => (all ++ [t]).idxOf u < (all ++ [t]).idxOf v) := by
  refine h.inOrder.imp_of_mem (fun {u v} hu hv huv => ?_)
  rw [List.idxOf_append_of_mem ((h.mem_iff u).1 hu), List.idxOf_append_of_mem ((h.mem_iff v).1 hv)]
  exact huv

theorem concat_of_mem (h : FirstSeen all kept) (ht : t ∈ all) : FirstSeen (all ++ [t]) kept where
  nodup := h.nodup
  mem_iff u := by
    rw [h.mem_iff, List.mem_append, List.mem_singleton]
    exact ⟨Or.inl, fun hu => hu.elim id (fun hut => hut ▸ ht)⟩
  inOrder := h.inOrder_concat t

theorem concat_of_not_mem (h : FirstSeen all kept) (ht : t ∉ all) :
    FirstSeen (all ++ [t]) (kept ++ [t]) where
  nodup := by
    refine List.nodup_append.2 ⟨h.nodup, List.pairwise_singleton _ t, fun u hu v hv huv => ?_⟩
    rw [List.mem_singleton.1 hv] at huv
    exact ht ((h.mem_iff t).1 (huv ▸ hu))
  mem_iff u := by rw [List.mem_append, List.mem_append, h.mem_iff]
  inOrder := by
    refine List.pairwise_append.2 ⟨h.inOrder_concat t, List.pairwise_singleton _ t, fun u hu v hv => ?_⟩
    have hu : u ∈ all := (h.mem_iff u).1 hu
    rw [List.mem_singleton.1 hv, List.idxOf_append_of_mem hu, List.idxOf_append_of_notMem ht]
    exact Nat.lt_of_lt_of_le (List.idxOf_lt_length_of_mem hu) (Nat.le_add_right _ _)

end FirstSeen

namespace Fields

theorem mem_distinct_iff {t : Text} : ∀ (ts : List TypeExpr) (before : List Text),
    t ∈ (distinct before ts).map TypeExpr.render ↔ t ∈ ts.map TypeExpr.render ∧ t ∉ before
  | [], _ => by simp [distinct]
  | u :: rest, before => by
    rw [distinct, List.map_cons, List.mem_cons]
    split
    · rename_i hu
      rw [mem_distinct_iff rest before]
      constructor
      · exact fun h => ⟨Or.inr h.1, h.2⟩
      · rintro ⟨rfl | h, hbefore⟩
        · exact absurd hu hbefore
        · exact ⟨h, hbefore⟩
    · rename_i hu
      rw [List.map_cons, List.mem_cons, mem_distinct_iff rest, List.mem_cons, not_or]
      constructor
      · rintro (rfl | ⟨h, _, hbefore⟩)
        · exact ⟨Or.inl rfl, hu⟩
        · exact ⟨Or.inr h, hbefore⟩
      · rintro ⟨rfl | h, hbefore⟩
        · exact Or.inl rfl
        · by_cases htu : t = u.render
          · exact Or.inl htu
          · exact Or.inr ⟨h, htu, hbefore⟩

theorem nodup_distinct : ∀ (ts : List TypeExpr) (before : List Text),
    ((distinct before ts).map TypeExpr.render).Nodup
  | [], _ => List.nodup_nil
  | u :: rest, before => by
    rw [distinct]
    split
    · exact nodup_distinct rest before
    · rw [List.map_cons, List.nodup_cons, mem_distinct_iff]
      exact ⟨fun h => h.2 List.mem_cons_self, nodup_distinct rest _⟩

theorem pairwise_idxOf_distinct : ∀ (ts : List TypeExpr) (before : List Text),
    ((distinct before ts).map TypeExpr.render).Pairwise
      (fun t u => (ts.map TypeExpr.render).idxOf t < (ts.map TypeExpr.render).idxOf u)
  | [], _ => List.Pairwise.nil
  | u :: rest, before => by
    -- a text other than the first one comes one place later than it does in the rest
    have hlater : ∀ before', (∀ t ∈ (distinct before' rest).map TypeExpr.render, t ≠ u.render) →
        ((distinct before' rest).map TypeExpr.render).Pairwise (fun t v =>
          ((u :: rest).map TypeExpr.render).idxOf t < ((u :: rest).map TypeExpr.render).idxOf v) := by
      intro before' hne
      refine (pairwise_idxOf_distinct rest before').imp_of_mem (fun {t v} ht hv h => ?_)
      rw [List.map_cons, List.idxOf_cons_ne _ (hne t ht).symm, List.idxOf_cons_ne _ (hne v hv).symm]
      exact Nat.succ_lt_succ h
    rw [distinct]
    split
    · rename_i hu
      exact hlater before (fun t ht htu => ((mem_distinct_iff rest before).1 ht).2 (htu ▸ hu))
    · have hne : ∀ t ∈ (distinct (u.render :: before) rest).map TypeExpr.render, t ≠ u.render :=
        fun t ht htu => ((mem_distinct_iff rest _).1 ht).2 (htu ▸ List.mem_cons_self)
      refine List.Pairwise.cons (fun t ht => ?_) (hlater _ hne)
      rw [List.map_cons, List.idxOf_cons_self, List.idxOf_cons_ne _ (hne t ht).symm]
      exact Nat.succ_pos _

/-- **Of several types, those with the same text are left out but for the first.** -/
theorem firstSeen_distinct (ts : List TypeExpr) :
    FirstSeen (ts.map TypeExpr.render) ((distinct [] ts).map TypeExpr.render) where
  nodup := nodup_distinct ts []
  mem_iff t := by simp [mem_distinct_iff ts []]
  inOrder := pairwise_idxOf_distinct ts []

theorem distinct_concat_of_mem {t : TypeExpr} : ∀ (ts : List TypeExpr) (before : List Text),
    t.render ∈ before ∨ t.render ∈ ts.map TypeExpr.render →
      distinct before (ts ++ [t]) = distinct before ts
  | [], before, h => by
    have ht : t.render ∈ before := h.resolve_right nofun
    exact if_pos ht
  | u :: rest, before, h => by
    rw [List.cons_append, distinct, distinct]
    split
    · rename_i hu
      refine distinct_concat_of_mem rest before (h.elim Or.inl (fun h => ?_))
      rcases List.mem_cons.1 h with h | h
      · exact Or.inl (h ▸ hu)
      · exact Or.inr h
    · rw [distinct_concat_of_mem rest]
      rcases h with h | h
      · exact Or.inl (List.mem_cons_of_mem _ h)
      · rcases List.mem_cons.1 h with h | h
        · exact Or.inl (h ▸ List.mem_cons_self)
        · exact Or.inr h

end Fields

/-! ## The declarations of an interface -/

namespace Scope

def fieldType (scope : Scope) (f : Text × Node) : Text := (scope.typeOf f.2).value.render

def declaration (scope : Scope) (f : Text × Node) : Text :=
  (MemberKey.ofName f.1).render ++ ": " ++ scope.fieldType f ++ ";"

theorem diagnostics_typesOf_concat (scope : Scope) (f : Text × Node) : ∀ fields : Fields,
    (scope.typesOf (fields ++ [f])).diagnostics =
      (scope.typesOf fields).diagnostics ++ (scope.typeOf f.2).diagnostics
  | [] => by
    simp only [List.nil_append, typesOf, Reported.diagnostics_bind, Reported.diagnostics_pure,
      List.append_nil]
  | (key, node) :: rest => by
    simp only [List.cons_append, typesOf, Reported.diagnostics_bind, Reported.diagnostics_pure,
      List.append_nil, diagnostics_typesOf_concat scope f rest, List.append_assoc]

theorem map_snd_typesOf (scope : Scope) (fields : Fields) :
    ((scope.typesOf fields).value.map Prod.snd).map TypeExpr.render =
      fields.map scope.fieldType := by
  rw [value_typesOf, List.map_map, List.map_map]
  rfl

end Scope

namespace Fields

def declarations (scope : Scope) (fields : Fields) : Reported (List Text) := do
  return (← fields.members scope).map Member.render

variable {scope : Scope} {fields other : Fields}

theorem declarations_eq (scope : Scope) (fields : Fields) :
    fields.declarations scope = (do
      let types ← scope.typesOf fields.shown
      return (fields.asMembers types).map Member.render) := by
  rw [declarations, members_eq, bind_assoc]
  rfl

theorem value_declarations_of_le (h : fields.wild.length ≤ 1) :
    (fields.declarations scope).value = (fields.fixed ++ fields.wild).map scope.declaration := by
  have hshown : fields.shown = fields.fixed ++ fields.wild := if_neg (Nat.not_lt.2 h)
  have hmembers : ∀ types, fields.asMembers types = types.map (fun f => ⟨.ofName f.1, f.2⟩) :=
    fun types => if_neg (Nat.not_lt.2 h)
  rw [declarations_eq, Reported.value_bind, Reported.value_pure, hshown, hmembers,
    Scope.value_typesOf, List.map_map, List.map_map]
  rfl

theorem declarations_congr (hfixed : other.fixed = fields.fixed) (hwild : other.wild = fields.wild) :
    other.declarations scope = fields.declarations scope := by
  unfold fixed at hfixed
  unfold wild at hwild
  simp only [declarations_eq, asMembers, shown, hfixed, hwild]

theorem declarations_of_lt (h : 1 < fields.wild.length) :
    fields.declarations scope = (do
      let types ← scope.typesOf fields.wild
      return ["[key: string]: " ++
        Text.join " | " ((distinct [] (types.map Prod.snd)).map TypeExpr.render) ++ ";"]) := by
  have hshown : fields.shown = fields.wild := if_pos h
  have hmembers : ∀ types, fields.asMembers types =
      [⟨.wildcard "key", .union (distinct [] (types.map Prod.snd))⟩] := fun types => if_pos h
  simp only [declarations_eq, hshown, hmembers, List.map_singleton, Member.render,
    TypeExpr.render_union]
  rfl

theorem declarations_congr_of_lt (h : 1 < fields.wild.length) (hwild : other.wild = fields.wild) :
    other.declarations scope = fields.declarations scope := by
  rw [declarations_of_lt h, declarations_of_lt (by rw [hwild]; exact h), hwild]

theorem declarations_concat {f : Text × Node} (h : 1 < fields.wild.length)
    (hf : isWildcard f = true) (htype : scope.fieldType f ∈ fields.wild.map scope.fieldType)
    (hquiet : (scope.typeOf f.2).diagnostics = []) :
    declarations scope (fields ++ [f]) = fields.declarations scope := by
  have hwild : wild (fields ++ [f]) = fields.wild ++ [f] := by
    rw [wild, List.filter_append, List.filter_cons_of_pos hf]
    rfl
  have hseen : (scope.typeOf f.2).value.render ∈
      (fields.wild.map (fun f => (scope.typeOf f.2).value)).map TypeExpr.render := by
    rwa [List.map_map]
  rw [declarations_of_lt h, declarations_of_lt (by rw [hwild, List.length_append]; omega), hwild]
  refine Reported.ext ?_ ?_
  · simp only [Reported.value_bind, Reported.value_pure, Scope.value_typesOf, List.map_map,
      List.map_append, List.map_singleton, Function.comp_def]
    rw [distinct_concat_of_mem _ _ (Or.inr hseen)]
  · simp only [Reported.diagnostics_bind, Reported.diagnostics_pure,
      Scope.diagnostics_typesOf_concat, hquiet, List.append_nil]

/-- **The declarations of an interface.**  With at most one wildcard there is one declaration for each
field, under its own key and with its own type, the fixed fields first; where the wildcard stands
among the fields changes nothing.  Several wildcards have one declaration over their types, each text
kept where it comes first; then neither the fixed fields change anything, nor a further wildcard of a
type that has come before. -/
theorem declarations_of_fields (scope : Scope) (fields : Fields) :
    (∀ f, f ∈ fields.wild ↔ f ∈ fields ∧ ∃ inside, f.1 = '<' :: (inside ++ ['>'])) ∧
    (fields.fixed ++ fields.wild).Perm fields ∧
    (fields.wild.length ≤ 1 →
      (fields.declarations scope).value = (fields.fixed ++ fields.wild).map scope.declaration ∧
      ∀ other : Fields, other.fixed = fields.fixed → other.wild = fields.wild →
        other.declarations scope = fields.declarations scope) ∧
    (1 < fields.wild.length → ∃ types,
      (fields.declarations scope).value =
        ["[key: string]: " ++ Text.join " | " types ++ ";"] ∧
      FirstSeen (fields.wild.map scope.fieldType) types ∧
      (∀ other : Fields, other.wild = fields.wild →
        other.declarations scope = fields.declarations scope) ∧
      ∀ f, isWildcard f = true → scope.fieldType f ∈ types →
        (scope.typeOf f.2).diagnostics = [] →
          declarations scope (fields ++ [f]) = fields.declarations scope) := by
  refine ⟨fun f => ?_, fields.fixed_append_wild_perm, fun h => ?_, fun h => ?_⟩
  · rw [wild, List.mem_filter, isWildcard_iff]
  · exact ⟨value_declarations_of_le h, fun other => declarations_congr⟩
  · have hseen := firstSeen_distinct ((scope.typesOf fields.wild).value.map Prod.snd)
    rw [Scope.map_snd_typesOf] at hseen
    refine ⟨_, ?_, hseen, fun other => declarations_congr_of_lt h, fun f hf htype hquiet => ?_⟩
    · rw [declarations_of_lt h]
      rfl
    · exact declarations_concat h hf ((hseen.mem_iff _).1 htype) hquiet

/-- Brackets on one side only, brackets around nothing and brackets around brackets. -/
def bracketFields : Fields :=
  [("<", .primitive .plain "string"), ("<<x>>", .primitive .plain "Integer"),
    ("<>", .reference .plain "7" .object), ("x>", .primitive .plain "blob"),
    ("<other id>", .primitive .plain "integer")]

def leadingFields : Fields :=
  [("<item-  id>", .reference .plain "7" .object), ("total", .primitive .plain "integer")]

def itemScope : Scope := ⟨"User", [⟨"7", "Item", none, none, some []⟩]⟩

theorem declarations_of_bracketFields :
    (1 < bracketFields.wild.length ∧ ∃ types,
      (bracketFields.declarations itemScope).value =
        ["[key: string]: " ++ Text.join " | " types ++ ";"] ∧
      FirstSeen ["number", "UserV1Item", "number"] types) ∧
    leadingFields.wild.length ≤ 1 ∧
    (leadingFields.declarations itemScope).value =
      ["total: number;", "[item_id: string]: UserV1Item;"] := by
  have hseveral : 1 < bracketFields.wild.length := by decide
  have hone : leadingFields.wild.length ≤ 1 := by decide
  refine ⟨⟨hseveral, ?_⟩, hone, ?_⟩
  · obtain ⟨types, hvalue, hseen, _⟩ :=
      (declarations_of_fields itemScope bracketFields).2.2.2 hseveral
    have htypes : bracketFields.wild.map itemScope.fieldType =
        ["number", "UserV1Item", "number"] := by decide +kernel
    rw [htypes] at hseen
    exact ⟨types, hvalue, hseen⟩
  · rw [((declarations_of_fields itemScope leadingFields).2.2.1 hone).1]
    decide +kernel

theorem value_declarations_eq_nil_iff :
    (fields.declarations scope).value = [] ↔ fields = [] := by
  by_cases h : fields.wild.length ≤ 1
  · rw [value_declarations_of_le h, List.map_eq_nil_iff]
    exact ⟨fun hnil => (hnil ▸ fields.fixed_append_wild_perm).symm.eq_nil,
      fun hnil => by rw [hnil]; rfl⟩
  · rw [declarations_of_lt (Nat.lt_of_not_le h)]
    refine ⟨nofun, ?_⟩
    rintro rfl
    exact absurd (Nat.zero_le 1) h

end Fields

/-! ## Objects spelled out in place -/

def Modifiers.around (m : Modifiers) (t : Text) : Text :=
  let t := if m.nullable then "(" ++ t ++ ") | null" else t
  if m.array then "(" ++ t ++ ")[]" else t

theorem Modifiers.render_wrap (m : Modifiers) (t : TypeExpr) :
    (m.wrap t).render = m.around t.render := by
  obtain ⟨nullable, array⟩ := m
  cases nullable <;> cases array <;>
    simp [wrap, around, TypeExpr.render, TypeExpr.renderList, Text.join_cons_cons,
      Text.join_singleton]

def inBraces (members : List Text) : Text :=
  if members.isEmpty then "\x7b\x7d" else "\x7b " ++ Text.join "; " members ++ " \x7d"

theorem inBraces_eq_iff (members : List Text) : inBraces members = "\x7b\x7d" ↔ members = [] := by
  cases members with
  | nil => exact ⟨fun _ => rfl, fun _ => rfl⟩
  | cons t rest => exact ⟨nofun, nofun⟩

/-- A field of an object spelled out in place, under its name and with its own type. -/
def Scope.memberInPlace (scope : Scope) (f : Text × Node) : Text :=
  TypeExpr.renderKey f.1 ++ ": " ++ scope.fieldType f

theorem Scope.renderFields_typesOf (scope : Scope) : ∀ fields : Fields,
    TypeExpr.renderFields (scope.typesOf fields).value = fields.map scope.memberInPlace
  | [] => rfl
  | (key, node) :: rest => by
    rw [List.map_cons, ← renderFields_typesOf scope rest]
    rfl

theorem Scope.render_typeOf_object (scope : Scope) (m : Modifiers) (fields : Fields) :
    (scope.typeOf (.object m fields)).value.render =
      m.around (inBraces (fields.map scope.memberInPlace)) := by
  have htype : (scope.typeOf (.object m fields)).value = m.wrap (.object (scope.typesOf fields).value) :=
    rfl
  rw [htype, Modifiers.render_wrap, TypeExpr.render, scope.renderFields_typesOf, scope.value_typesOf]
  cases fields <;> rfl

theorem Scope.declaration_of_fixed (scope : Scope) {f : Text × Node}
    (h : Fields.isWildcard f = false) : scope.declaration f = scope.memberInPlace f ++ ";" := by
  have hkey : MemberKey.ofName f.1 = .fixed f.1 := by
    rw [Fields.isWildcard, Option.isSome_eq_false_iff, Option.isNone_iff_eq_none] at h
    rw [MemberKey.ofName, h]
  rw [declaration, hkey]
  rfl

theorem Fields.map_declaration_fixed (scope : Scope) (fields : Fields) :
    fields.fixed.map scope.declaration =
      (fields.fixed.map scope.memberInPlace).map (· ++ (";" : Text)) := by
  rw [List.map_map]
  refine List.map_congr_left (fun f hf => scope.declaration_of_fixed ?_)
  simpa using (List.mem_filter.1 hf).2

/-- **An object spelled out in place has one member for each field, in order, under the key of a fixed
field.**  Its members are those of the interface as long as no name stands in angle brackets; a single
such field is the wildcard of the interface, behind the others. -/
theorem render_inPlace (scope : Scope) {v : Json} {m : Modifiers} {fields : Fields}
    (h : Node.ofJson v = .object m fields) :
    (scope.typeOf (Node.ofJson v)).value.render =
      m.around (inBraces (fields.map scope.memberInPlace)) ∧
    (inBraces (fields.map scope.memberInPlace) = "\x7b\x7d" ↔
      (fields.declarations scope).value = []) ∧
    (fields.wild = [] →
      (fields.map scope.memberInPlace).map (· ++ (";" : Text)) = (fields.declarations scope).value) ∧
    ∀ inside node, fields.wild = [('<' :: (inside ++ ['>']), node)] →
      (fields.declarations scope).value =
        (fields.fixed.map scope.memberInPlace).map (· ++ (";" : Text)) ++
          ["[" ++ MemberKey.parameterName inside ++ ": string]" ++ ": " ++
            (scope.typeOf node).value.render ++ ";"] := by
  refine ⟨by rw [h, scope.render_typeOf_object], ?_, fun hwild => ?_, fun inside node hwild => ?_⟩
  · rw [inBraces_eq_iff, Fields.value_declarations_eq_nil_iff, List.map_eq_nil_iff]
  · rw [Fields.value_declarations_of_le (by rw [hwild]; exact Nat.zero_le 1), hwild,
      List.append_nil, Fields.map_declaration_fixed, Fields.fixed_of_wild_eq_nil hwild]
  · have hkey : MemberKey.ofName ('<' :: (inside ++ ['>'])) =
        .wildcard (MemberKey.parameterName inside) := by
      rw [MemberKey.ofName, MemberKey.wildcard?_eq_some_iff.2 rfl]
    rw [Fields.value_declarations_of_le (by rw [hwild]; exact Nat.le_refl 1), hwild,
      List.map_append, Fields.map_declaration_fixed, List.map_singleton, Scope.declaration, hkey]
    rfl

def wildJson : Json := .obj [("<item id>", .obj [("type", .str "integer")])]

/-- **A field in angle brackets is no wildcard in place.** -/
theorem not_inPlace_as_declared :
    ¬ ∀ (scope : Scope) (v : Json) (m : Modifiers) (fields : Fields),
      Node.ofJson v = .object m fields → ∃ members : List Text,
        (scope.typeOf (Node.ofJson v)).value.render = m.around (inBraces members) ∧
        members.map (· ++ (";" : Text)) = (fields.declarations scope).value := by
  intro h
  obtain ⟨members, htext, hmembers⟩ := h ⟨"User", []⟩ wildJson .plain
    [("<item id>", .primitive .plain "integer")] rfl
  have hdeclared : members.map (· ++ (";" : Text)) =
      ["[item_id: string]: number".toList].map (· ++ (";" : Text)) := by
    rw [hmembers]
    decide +kernel
  have hinjective := List.map_injective_iff.2 (List.append_left_injective (";" : Text))
  rw [hinjective hdeclared] at htext
  revert htext
  decide +kernel

def nestedJson : Json :=
  .obj [("<item id>", wildJson), ("nullable", .bool true), ("total", .obj [("type", .str "integer")]),
    ("array", .bool true)]

theorem render_inPlace_nested :
    Node.ofJson nestedJson = .object ⟨true, true⟩
      [("<item id>", .object .plain [("<item id>", .primitive .plain "integer")]),
        ("total", .primitive .plain "integer")] ∧
    (Scope.typeOf ⟨"User", []⟩ (Node.ofJson nestedJson)).value.render =
      "((\x7b \"<item id>\": \x7b \"<item id>\": number \x7d; total: number \x7d) | null)[]" := by
  have hnode : Node.ofJson nestedJson = .object ⟨true, true⟩
      [("<item id>", .object .plain [("<item id>", .primitive .plain "integer")]),
        ("total", .primitive .plain "integer")] := rfl
  refine ⟨hnode, ?_⟩
  rw [(render_inPlace ⟨"User", []⟩ hnode).1]
  decide +kernel

end ApiTypes
