import ApiTypes.Proofs.Schema.Depth
import ApiTypes.Proofs.Section.Items
import ApiTypes.Proofs.Text.Lines
import ApiTypes.Proofs.TypeExpr.Literal
/-!
# The exported lines of a section

Where no name and no value holds a line feed, every declaration of a section starts on a line of its
own and no other line starts like one.  So the lines that start with `export` are those of the
section's items, in order.
-/
namespace ApiTypes

open Naming (structureName responseName)

/-- A structure none of whose values and field names holds a line feed. -/
structure Structure.OneLine (s : Structure) : Prop where
  values : ∀ v ∈ s.values.getD [], '\n' ∉ v
  keys : ∀ key ∈ Fields.keys (s.schema.getD []), '\n' ∉ key

instance (s : Structure) : Decidable s.OneLine :=
  decidable_of_iff ((∀ v ∈ s.values.getD [], '\n' ∉ v) ∧
    ∀ key ∈ Fields.keys (s.schema.getD []), '\n' ∉ key)
    ⟨fun h => ⟨h.1, h.2⟩, fun h => ⟨h.values, h.keys⟩⟩

structure Selection.OneLine (s : Selection) : Prop where
  keys : ∀ key ∈ Fields.keys s.schema, '\n' ∉ key
  pool : ∀ t ∈ s.structures, t.OneLine

instance (s : Selection) : Decidable s.OneLine :=
  decidable_of_iff ((∀ key ∈ Fields.keys s.schema, '\n' ∉ key) ∧ ∀ t ∈ s.structures, t.OneLine)
    ⟨fun h => ⟨h.1, h.2⟩, fun h => ⟨h.keys, h.pool⟩⟩

structure Scope.OneLine (scope : Scope) : Prop where
  stem : '\n' ∉ scope.stem
  pool : ∀ t ∈ scope.pool, t.OneLine

/-! ## Types stand on one line -/

namespace TypeExpr

theorem feed_not_mem_renderLiteral {v : Text} (h : '\n' ∉ v) : '\n' ∉ renderLiteral v := by
  intro hm
  have hany : (renderLiteral v).any (· == '\n') = true := List.any_eq_true.2 ⟨_, hm, rfl⟩
  rw [any_renderLiteral (by decide) (by decide), List.any_eq_true] at hany
  obtain ⟨c, hc, e⟩ := hany
  exact h (eq_of_beq e ▸ hc)

theorem feed_not_mem_renderKey {key : Text} (h : '\n' ∉ key) : '\n' ∉ renderKey key := by
  unfold renderKey
  split
  · exact feed_not_mem_renderLiteral h
  · exact h

theorem feed_not_mem_join {sep : Text} {parts : List Text} (hsep : '\n' ∉ sep)
    (h : ∀ p ∈ parts, '\n' ∉ p) : '\n' ∉ Text.join sep parts := by
  intro hm
  rcases Text.mem_join hm with hm | ⟨p, hp, hm⟩
  · exact hsep hm
  · exact h p hp hm

theorem feed_not_mem_union {ts : List TypeExpr} (h : ∀ t ∈ ts, '\n' ∉ t.render) :
    '\n' ∉ (TypeExpr.union ts).render := by
  rw [render_union]
  refine feed_not_mem_join (by decide) (fun p hp => ?_)
  obtain ⟨t, ht, rfl⟩ := List.mem_map.1 hp
  exact h t ht

theorem feed_not_mem_ofLiterals {values : List Text} (h : ∀ v ∈ values, '\n' ∉ v) :
    '\n' ∉ (ofLiterals values).render := by
  unfold ofLiterals
  split
  · decide
  · refine feed_not_mem_union (fun t ht => ?_)
    obtain ⟨v, hv, rfl⟩ := List.mem_map.1 ht
    exact feed_not_mem_renderLiteral (h v hv)

end TypeExpr

theorem Modifiers.feed_not_mem_wrap (m : Modifiers) {t : TypeExpr} (h : '\n' ∉ t.render) :
    '\n' ∉ (m.wrap t).render := by
  obtain ⟨nullable, array⟩ := m
  cases nullable <;> cases array <;>
    simp [wrap, TypeExpr.render, TypeExpr.renderList, Text.join_cons_cons, Text.join_singleton, h]

theorem Vocabulary.feed_not_mem_type (token : Text) : '\n' ∉ (type token).value.render :=
  have htable : ∀ t ∈ TypeExpr.unknown :: table.map Prod.snd, '\n' ∉ t.render := by decide
  htable _ (value_type_mem token)

theorem Naming.feed_not_mem_structureName {stem : Text} (h : '\n' ∉ stem) (s : Structure) :
    '\n' ∉ structureName stem s := by
  simp [structureName, h, feed_not_mem_sanitize]

namespace Scope

variable {scope : Scope}

theorem feed_not_mem_referenceType (h : scope.OneLine) (id : Text) (tag : ReferenceTag) :
    '\n' ∉ (scope.referenceType id tag).render := by
  rcases scope.referenceType_cases id tag with ⟨-, e⟩ | ⟨s, hs, ⟨values, -, hv, e⟩ | ⟨-, e⟩⟩
  · rw [e]
    decide
  · rw [e]
    have hvalues := (h.pool s (List.mem_of_find?_eq_some hs)).values
    rw [hv] at hvalues
    exact TypeExpr.feed_not_mem_ofLiterals hvalues
  · rw [e]
    exact Naming.feed_not_mem_structureName h.stem s

mutual

theorem feed_not_mem_typeOf (h : scope.OneLine) : ∀ node : Node,
    (∀ key ∈ node.keys, '\n' ∉ key) → '\n' ∉ (scope.typeOf node).value.render
  | .primitive m token, _ => m.feed_not_mem_wrap (Vocabulary.feed_not_mem_type token)
  | .reference m id tag, _ => m.feed_not_mem_wrap (feed_not_mem_referenceType h id tag)
  | .object m fields, hk => by
    refine m.feed_not_mem_wrap ?_
    unfold TypeExpr.render
    split
    · decide
    · have hsep : '\n' ∉ ("; " : Text) := by decide
      have hjoin := TypeExpr.feed_not_mem_join hsep (feed_not_mem_renderFields h fields hk)
      simpa using hjoin
  | .unknown m, _ => m.feed_not_mem_wrap (by decide)

theorem feed_not_mem_renderFields (h : scope.OneLine) : ∀ fields : Fields,
    (∀ key ∈ fields.keys, '\n' ∉ key) →
      ∀ line ∈ TypeExpr.renderFields (scope.typesOf fields).value, '\n' ∉ line
  | [], _, _, hl => by cases hl
  | (key, node) :: rest, hk, line, hl => by
    rcases List.mem_cons.1 hl with rfl | hl
    · have hkey := TypeExpr.feed_not_mem_renderKey (hk key List.mem_cons_self)
      have hnode := feed_not_mem_typeOf h node
        (fun k hm => hk k (List.mem_cons_of_mem key (List.mem_append_left _ hm)))
      simp [hkey, hnode]
    · exact feed_not_mem_renderFields h rest
        (fun k hm => hk k (List.mem_cons_of_mem key (List.mem_append_right _ hm))) line hl

end

end Scope

/-! ## Members stand on one line -/

theorem MemberKey.feed_not_mem_closeGaps : ∀ (inGap : Bool) (t : Text), '\n' ∉ closeGaps inGap t
  | _, [] => List.not_mem_nil
  | inGap, c :: rest => by
    unfold closeGaps
    split
    · split
      · exact feed_not_mem_closeGaps true rest
      · simp [feed_not_mem_closeGaps true rest]
    · rename_i hc
      have hne : '\n' ≠ c := fun e => hc (e ▸ by decide)
      simp [hne, feed_not_mem_closeGaps false rest]

theorem MemberKey.feed_not_mem_render {name : Text} (h : '\n' ∉ name) :
    '\n' ∉ (MemberKey.ofName name).render := by
  unfold ofName
  split
  · rename_i inside _
    have hp : '\n' ∉ parameterName inside := by
      unfold parameterName
      split
      · decide
      · exact feed_not_mem_closeGaps false inside
    simp [render, hp]
  · exact TypeExpr.feed_not_mem_renderKey h

theorem Fields.feed_not_mem_members {scope : Scope} (h : scope.OneLine) {fields : Fields}
    (hk : ∀ key ∈ fields.keys, '\n' ∉ key) :
    ∀ m ∈ (fields.members scope).value, '\n' ∉ m.render := by
  have hfield : ∀ f ∈ fields, '\n' ∉ f.1 ∧ '\n' ∉ (scope.typeOf f.2).value.render := by
    intro f hf
    have hin : ∀ key ∈ f.1 :: f.2.keys, '\n' ∉ key := fun key hkey => hk key (by
      rw [keys_eq_flatMap]
      exact List.mem_flatMap.2 ⟨f, hf, hkey⟩)
    exact ⟨hin f.1 List.mem_cons_self,
      Scope.feed_not_mem_typeOf h f.2 (fun key hkey => hin key (List.mem_cons_of_mem _ hkey))⟩
  intro m hm
  rcases of_mem_members hm with ⟨f, hf, rfl⟩ | ⟨ts, rfl, hts⟩
  · have hkey := MemberKey.feed_not_mem_render (hfield f hf).1
    simp [Member.render, hkey, (hfield f hf).2]
  · have hunion : '\n' ∉ (TypeExpr.union ts).render := by
      refine TypeExpr.feed_not_mem_union (fun t ht => ?_)
      obtain ⟨f, hf, rfl⟩ := hts t ht
      exact (hfield f hf).2
    simp [Member.render, MemberKey.render, hunion]

/-! ## The lines of declarations -/

/-- The lines of a text that start an exported declaration. -/
def Text.exportLines (t : Text) : List Text :=
  t.lines.filter (fun line => ("export " : Text).isPrefixOf line)

namespace Declaration

/-- The line that a declaration starts with: all of an alias, the opening line of an interface. -/
def head : Declaration → Text
  | .alias n t => "export type " ++ n ++ " = " ++ t.render ++ ";"
  | .interface n _ => "export interface " ++ n ++ " \x7b"

theorem head_alias (n : Text) (t : TypeExpr) :
    (Declaration.alias n t).head = "export type " ++ n ++ " = " ++ t.render ++ ";" := rfl

theorem head_interface (n : Text) (ms : List Member) :
    (interface n ms).head = "export interface " ++ n ++ " \x7b" := rfl

theorem isPrefixOf_head : ∀ d : Declaration, ("export " : Text).isPrefixOf d.head = true
  | .alias n t => by
    rw [head_alias]
    simp
  | .interface n ms => by
    rw [head_interface]
    simp

def OneLine : Declaration → Prop
  | .alias n t => '\n' ∉ n ∧ '\n' ∉ t.render
  | .interface n ms => '\n' ∉ n ∧ ∀ m ∈ ms, '\n' ∉ m.render

theorem lines_render_interface {n : Text} {ms : List Member} (h : (interface n ms).OneLine) :
    (interface n ms).render.lines =
      (interface n ms).head :: ms.map (fun m => "    " ++ m.render) ++ [['\x7d']] := by
  refine Text.lines_joinLines_of_not_mem (List.cons_ne_nil _ _) (fun line hl => ?_)
  rcases List.mem_append.1 hl with hl | hl
  · rcases List.mem_cons.1 hl with rfl | hl
    · simp [h.1]
    · obtain ⟨m, hm, rfl⟩ := List.mem_map.1 hl
      simp [h.2 m hm]
  · rw [List.mem_singleton] at hl
    rw [hl]
    decide

/-- **Of a declaration, the first line alone starts with `export`**: members are indented, and the
last line is a brace. -/
theorem exportLines_render : ∀ {d : Declaration}, d.OneLine → d.render.exportLines = [d.head]
  | .alias n t, h => by
    have hhead : (Declaration.alias n t).render = (Declaration.alias n t).head := rfl
    have hline : '\n' ∉ (Declaration.alias n t).head := by
      rw [head_alias]
      simp [h.1, h.2]
    rw [hhead, Text.exportLines, Text.lines_of_not_mem hline]
    exact List.filter_cons_of_pos (isPrefixOf_head (Declaration.alias n t))
  | .interface n ms, h => by
    have hmembers : (ms.map (fun m => "    ".toList ++ m.render)).filter
        (fun line => ("export " : Text).isPrefixOf line) = [] := by
      refine List.filter_eq_nil_iff.2 (fun line hl => ?_)
      obtain ⟨m, -, rfl⟩ := List.mem_map.1 hl
      exact Bool.false_ne_true
    rw [Text.exportLines, lines_render_interface h, List.filter_append,
      List.filter_cons_of_pos (isPrefixOf_head (interface n ms)), hmembers]
    rfl

end Declaration

theorem exportLines_renderDeclarations {ds : List Declaration} (h : ∀ d ∈ ds, d.OneLine) :
    (renderDeclarations ds).exportLines = ds.map Declaration.head := by
  by_cases hne : ds = []
  · subst hne
    rfl
  · have hblocks : ds.flatMap (fun d => [d.render, []]) ≠ [] := by
      rw [Ne, List.flatMap_eq_nil_iff]
      exact fun hall => (List.exists_mem_of_ne_nil ds hne).elim
        (fun d hd => List.cons_ne_nil _ _ (hall d hd))
    -- the empty line behind a declaration starts nothing
    have hblock : ∀ d ∈ ds, ([d.render, []].flatMap Text.lines).filter
        (fun line => ("export " : Text).isPrefixOf line) = [d.head] := by
      intro d hd
      have hd := Declaration.exportLines_render (h d hd)
      rw [List.flatMap_cons, List.flatMap_singleton, List.filter_append]
      rw [Text.exportLines] at hd
      rw [hd]
      rfl
    rw [Text.exportLines, renderDeclarations, Text.lines_joinLines hblocks, List.flatMap_assoc,
      List.filter_flatMap, List.flatMap_congr hblock, List.map_eq_flatMap]

/-! ## The lines of items -/

/-- The exported lines of an item: all of an alias for a structure with values, the opening line of
an interface for one with fields, nothing for one without a shape. -/
def Item.exportLines (stem : Text) : Item → List Text
  | .first _ s =>
    match s.values, s.schema with
    | some values, _ =>
      ["export type " ++ structureName stem s ++ " = " ++ (TypeExpr.ofLiterals values).render ++ ";"]
    | none, some _ => ["export interface " ++ structureName stem s ++ " \x7b"]
    | none, none => []
  | .response s => ["export interface " ++ responseName stem s ++ " \x7b"]

theorem Item.map_head_declare (stem : Text) :
    ∀ i : Item, (i.declare stem).value.map Declaration.head = i.exportLines stem
  | .response _ => rfl
  | .first home s => by
    rw [Item.value_declare_first, Item.exportLines, Structure.declaration?]
    cases s.values <;> cases s.schema <;> rfl

theorem Selection.OneLine.scope {s : Selection} (h : s.OneLine) {stem : Text} (hstem : '\n' ∉ stem) :
    (s.scope stem).OneLine :=
  ⟨hstem, h.pool⟩

theorem Structure.oneLine_declaration? {stem : Text} {home : Selection} {s : Structure}
    (hscope : (home.scope stem).OneLine) (hs : s.OneLine) :
    ∀ d ∈ s.declaration? stem home, d.OneLine := by
  intro d hd
  have hname := Naming.feed_not_mem_structureName hscope.stem s
  obtain ⟨hvalues, hkeys⟩ := hs
  unfold declaration? at hd
  split at hd
  · rename_i values _ hv
    cases hd
    rw [hv] at hvalues
    exact ⟨hname, TypeExpr.feed_not_mem_ofLiterals hvalues⟩
  · rename_i fields _ hf
    cases hd
    rw [hf] at hkeys
    exact ⟨hname, Fields.feed_not_mem_members hscope hkeys⟩
  · cases hd

theorem Item.oneLine_declare {stem : Text} (hstem : '\n' ∉ stem) {selections : List Selection}
    (h : ∀ s ∈ selections, s.OneLine) :
    ∀ i ∈ items stem [] selections, ∀ d ∈ (i.declare stem).value, d.OneLine
  | .first home s, hi, d, hd => by
    obtain ⟨hhome, hs⟩ := mem_of_first_mem_items stem selections [] hi
    rw [Item.value_declare_first] at hd
    exact Structure.oneLine_declaration? ((h home hhome).scope hstem) ((h home hhome).pool s hs) d
      (Option.mem_toList.1 hd)
  | .response s, hi, d, hd => by
    have hs : s ∈ selections := mem_of_response_mem_items hi
    rw [List.mem_singleton.1 hd]
    refine ⟨?_, Fields.feed_not_mem_members ((h s hs).scope hstem) (h s hs).keys⟩
    simp [responseName, Selection.scope, hstem, Naming.feed_not_mem_sanitize]

/-- **What a section exports.**  Where the section's name, its field names and its values hold no
line feed, the lines that start with `export` are those of the section's items: for each selection
the structures of its pool that are the first of their type name and have a shape, then its
response.  Each structure is declared in the scope of the selection that has it first; no type name
is declared twice by structures, every one whose first structure has a shape is declared, and no
response is left out. -/
theorem exportLines_sectionText (name : Text) (selections : List Selection) (hname : '\n' ∉ name)
    (hlines : ∀ s ∈ selections, s.OneLine) :
    let stem := Naming.sectionPrefix name
    let text := (sectionText name selections).value
    text.exportLines = (items stem [] selections).flatMap (Item.exportLines stem) ∧
    text = renderDeclarations
      ((items stem [] selections).flatMap (fun i => (i.declare stem).value)) ∧
    (∀ n, (structureDeclarations stem selections).filter (fun d => d.name = n) =
      ((firstNamed stem selections n).bind (fun p => p.2.declaration? stem p.1)).toList) ∧
    ((structureDeclarations stem selections).map Declaration.name).Nodup ∧
    (∀ n p, firstNamed stem selections n = some p → p.2.hasShape = true →
      n ∈ (structureDeclarations stem selections).map Declaration.name) ∧
    (items stem [] selections).filterMap Item.response? = selections := by
  intro stem text
  have hstem : '\n' ∉ stem := Text.feed_not_mem_capitalize hname
  have htext : text = renderDeclarations
      ((items stem [] selections).flatMap (fun i => (i.declare stem).value)) :=
    value_sectionText name selections
  have hdeclared : ∀ d ∈ (items stem [] selections).flatMap (fun i => (i.declare stem).value),
      d.OneLine := by
    intro d hd
    obtain ⟨i, hi, hd⟩ := List.mem_flatMap.1 hd
    exact Item.oneLine_declare hstem hlines i hi d hd
  have hfilter := filter_structureDeclarations stem selections
  refine ⟨?_, htext, hfilter, nodup_structureDeclarations stem selections, ?_,
    filterMap_response_items stem selections []⟩
  · rw [htext, exportLines_renderDeclarations hdeclared, List.map_flatMap]
    exact List.flatMap_congr (fun i _ => Item.map_head_declare stem i)
  · intro n p hp hshape
    rw [← Structure.isSome_declaration? stem p.1] at hshape
    obtain ⟨d, hd⟩ := Option.isSome_iff_exists.1 hshape
    have hmem : d ∈ (structureDeclarations stem selections).filter (fun d => d.name = n) := by
      rw [hfilter, hp, Option.bind_some, hd]
      exact List.mem_singleton.2 rfl
    obtain ⟨hin, hn⟩ := List.mem_filter.1 hmem
    exact List.mem_map.2 ⟨d, hin, by simpa using hn⟩

/-- Two selections that meet in a type name: the second `status` is declared no more, and the
structure without a shape not at all. -/
def statusSelections : List Selection :=
  [⟨"profile", [], [], [("status", .reference .plain "1" .enum)],
      [⟨"1", "Status", none, some ["Okay", "Hospital"], none⟩, ⟨"2", "Empty", none, none, none⟩]⟩,
    ⟨"basic", [], [], [("status", .reference .plain "1" .object)],
      [⟨"1", "status", none, some ["Other"], none⟩,
        ⟨"3", "bar", none, none, some [("now", .primitive .plain "integer")]⟩]⟩]

theorem exportLines_statusSelections :
    '\n' ∉ ("user" : Text) ∧ (∀ s ∈ statusSelections, s.OneLine) ∧
    (sectionText "user" statusSelections).value.exportLines =
      ["export type UserV1Status = \"Okay\" | \"Hospital\";",
        "export interface UserV1ProfileResponse \x7b", "export interface UserV1Bar \x7b",
        "export interface UserV1BasicResponse \x7b"] := by
  have hname : '\n' ∉ ("user" : Text) := by decide
  have hlines : ∀ s ∈ statusSelections, s.OneLine := by decide
  refine ⟨hname, hlines, ?_⟩
  rw [(exportLines_sectionText "user" statusSelections hname hlines).1]
  decide

end ApiTypes
