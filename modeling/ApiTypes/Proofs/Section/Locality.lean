import ApiTypes.Proofs.Schema.Depth
import ApiTypes.Proofs.Schema.Edit
import ApiTypes.Proofs.Section.Items
/-!
# A schema matters where it stands

What a section declares, and where, is settled by type names, and a reference is shown by the name
or the values of its structure.  So nothing looks into the schema of a selection but the selection's
own response, and nothing into that of a structure but the structure's own declaration, if there is
one (`schema_stays_local`).  A document is never refused for what stands in a schema.
-/
namespace ApiTypes

open Naming (structureName)

/-! ## The blocks of a section -/

/-- What the items of a section declare, one after the other, and what there is to report on each. -/
def sectionBlocks (name : Text) (selections : List Selection) :
    List (Reported (List Declaration)) :=
  (items (Naming.sectionPrefix name) [] selections).map (Item.declare (Naming.sectionPrefix name))

def renderBlocks (blocks : List (Reported (List Declaration))) : Reported Text :=
  ⟨renderDeclarations (blocks.flatMap Reported.value), blocks.flatMap Reported.diagnostics⟩

/-- **The text of a section, block by block.** -/
theorem sectionText_eq_renderBlocks (name : Text) (selections : List Selection) :
    sectionText name selections = renderBlocks (sectionBlocks name selections) := by
  have hvalue := value_sectionText name selections
  have hdiagnostics := diagnostics_sectionText_items name selections
  rw [renderBlocks, sectionBlocks, List.flatMap_map, List.flatMap_map, ← hvalue, ← hdiagnostics]

/-! ## Items are told by type names -/

theorem firsts_append (stem : Text) (rest : List Structure) : ∀ pool before : List Structure,
    firsts stem before (pool ++ rest) = firsts stem before pool ++ firsts stem (before ++ pool) rest
  | [], before => by rw [List.nil_append, firsts, List.nil_append, List.append_nil]
  | s :: pool, before => by
    have ih := firsts_append stem rest pool (before ++ [s])
    rw [List.append_assoc, List.singleton_append] at ih
    rw [List.cons_append, firsts, firsts, ih]
    split
    · rfl
    · rw [List.cons_append]

theorem firsts_congr {stem : Text} : ∀ (pool : List Structure) {before before' : List Structure},
    before'.map (structureName stem) = before.map (structureName stem) →
      firsts stem before' pool = firsts stem before pool
  | [], _, _, _ => rfl
  | s :: pool, before, before', h => by
    have hs : (before' ++ [s]).map (structureName stem) = (before ++ [s]).map (structureName stem) := by
      rw [List.map_append, List.map_append, h]
    rw [firsts, firsts, h, firsts_congr pool hs]

theorem items_append (stem : Text) (rest : List Selection) :
    ∀ (selections : List Selection) (before : List Structure),
      items stem before (selections ++ rest) = items stem before selections ++
        items stem (before ++ selections.flatMap Selection.structures) rest
  | [], before => by
    rw [List.nil_append, items, List.nil_append, List.flatMap_nil, List.append_nil]
  | s :: selections, before => by
    rw [List.cons_append, items, items, items_append stem rest selections, List.flatMap_cons,
      List.append_assoc, List.append_assoc, List.cons_append]

theorem items_congr {stem : Text} : ∀ (selections : List Selection) {before before' : List Structure},
    before'.map (structureName stem) = before.map (structureName stem) →
      items stem before' selections = items stem before selections
  | [], _, _, _ => rfl
  | s :: selections, before, before', h => by
    have hs : (before' ++ s.structures).map (structureName stem) =
        (before ++ s.structures).map (structureName stem) := by
      rw [List.map_append, List.map_append, h]
    rw [items, items, firsts_congr s.structures h, items_congr selections hs]

/-! ## Scopes that show references alike -/

theorem Structure.declare_congr {a b : Scope} (h : ∀ id tag, a.referenceType id tag = b.referenceType id tag)
    (name : Text) (s : Structure) : s.declare a name = s.declare b name := by
  unfold declare
  cases s.values with
  | some values => rfl
  | none =>
    cases s.schema with
    | none => rfl
    | some fields =>
      have hmembers : fields.members a = fields.members b := Fields.members_congr (fun r _ => h r.1 r.2)
      simp only [hmembers]

/-- A structure keeps its name and its values, so a scope does not show what its schema is. -/
theorem Scope.referenceType_schema (stem : Text) (schema : Option Fields) (t : Structure) :
    ∀ (front back : List Structure) (id : Text) (tag : ReferenceTag),
      (Scope.mk stem (front ++ { t with schema := schema } :: back)).referenceType id tag =
        (Scope.mk stem (front ++ t :: back)).referenceType id tag := by
  intro front back id tag
  have hfind : ∀ u : Structure, u.id = t.id →
      (Scope.mk stem (front ++ u :: back)).structure? id =
        (front.find? (fun s => s.id = id)).or
          (if t.id = id then some u else back.find? (fun s => s.id = id)) := by
    intro u hu
    rw [structure?, List.find?_append, List.find?_cons, hu]
    by_cases h : t.id = id <;> simp [h]
  rw [referenceType, referenceType, hfind { t with schema := schema } rfl, hfind t rfl]
  cases front.find? (fun s => s.id = id) with
  | some s => rfl
  | none =>
    by_cases h : t.id = id
    · rw [if_pos h, if_pos h]
      rfl
    · rw [if_neg h, if_neg h]

/-! ## A schema that changes -/

theorem sectionBlocks_append_cons (name : Text) (front back : List Selection) (s : Selection) :
    let stem := Naming.sectionPrefix name
    let before := front.flatMap Selection.structures
    sectionBlocks name (front ++ s :: back) =
      ((items stem [] front).map (Item.declare stem) ++
        (firsts stem before s.structures).map (fun t => (Item.first s t).declare stem)) ++
      (Item.response s).declare stem ::
        (items stem (before ++ s.structures) back).map (Item.declare stem) := by
  intro stem before
  rw [sectionBlocks, items_append, items, List.map_append, List.map_append, List.map_map,
    List.map_cons, List.nil_append, ← List.append_assoc]
  rfl

def structuresBefore (selections : List Selection) (i j : Nat) : List Structure :=
  (selections.take i).flatMap Selection.structures ++
    ((selections[i]?.map Selection.structures).getD []).take j

/-- Two sections that are the same but for the schema of the selection at a place: they have the
same blocks but for that selection's response. -/
inductive SameButResponse (name : Text) (i : Nat) (selections selections' : List Selection) : Prop
  where
  | outside (hi : selections[i]? = none) (h : selections' = selections)
  | response {s : Selection} {schema : Fields} (hi : selections[i]? = some s)
      (h : selections' = selections.set i { s with schema := schema })
      (hblocks : ∃ before after,
        sectionBlocks name selections =
          before ++ (Item.response s).declare (Naming.sectionPrefix name) :: after ∧
        sectionBlocks name selections' =
          before ++ (Item.response { s with schema := schema }).declare (Naming.sectionPrefix name)
            :: after)

def Selection.withSchema (s : Selection) (j : Nat) (schema : Option Fields) : Selection :=
  { s with structures := s.structures.modify j (fun t => { t with schema := schema }) }

/-- Two sections that are the same but for the schema of a structure at a place: if the structure
has values, or a structure in front has its type name, they have the same text, and else the same
blocks but for the structure's own one. -/
inductive SameButStructure (name : Text) (i j : Nat) (selections selections' : List Selection) :
    Prop where
  | outside (hj : (selections[i]?.bind (fun s => s.structures[j]?)) = none)
      (h : selections' = selections)
  | structure {s : Selection} {t : Structure} {schema : Option Fields}
      (hi : selections[i]? = some s) (hj : s.structures[j]? = some t)
      (h : selections' = selections.set i (s.withSchema j schema))
      (hsame : t.values.isSome = true ∨ structureName (Naming.sectionPrefix name) t ∈
          (structuresBefore selections i j).map (structureName (Naming.sectionPrefix name)) →
        sectionText name selections' = sectionText name selections)
      (hown : structureName (Naming.sectionPrefix name) t ∉
          (structuresBefore selections i j).map (structureName (Naming.sectionPrefix name)) →
        ∃ before after,
          sectionBlocks name selections =
            before ++ (Item.first s t).declare (Naming.sectionPrefix name) :: after ∧
          sectionBlocks name selections' =
            before ++ (Item.first (s.withSchema j schema) { t with schema := schema }).declare
              (Naming.sectionPrefix name) :: after)

theorem sameButResponse_modify (name : Text) (i : Nat) (schema : Fields)
    (selections : List Selection) :
    SameButResponse name i selections
      (selections.modify i (fun s => { s with schema := schema })) := by
  by_cases hi : i < selections.length
  · obtain ⟨front, s, back, rfl, rfl, hmodify⟩ :=
      List.exists_of_modify (fun s : Selection => { s with schema := schema }) hi
    rw [hmodify]
    have hblocks := sectionBlocks_append_cons name front back s
    -- the pool is the same, and with it the scope of its structures
    have hblocks' := sectionBlocks_append_cons name front back { s with schema := schema }
    exact .response (by simp) (by simp) ⟨_, _, hblocks, hblocks'⟩
  · rw [List.modify_eq_self (Nat.le_of_not_lt hi)]
    exact .outside (List.getElem?_eq_none (Nat.le_of_not_lt hi)) rfl

theorem Item.declare_of_values (stem : Text) (home : Selection) {s : Structure} {values : List Text}
    (h : s.values = some values) : (Item.first home s).declare stem =
      pure [.alias (structureName stem s) (.ofLiterals values)] := by
  rw [Item.declare, Structure.declare, h]
  rfl

/-- What a structure adds to the blocks of its section: one block if no structure in front has its
type name. -/
def ownBlocks (stem : Text) (before : List Structure) (home : Selection) (t : Structure) :
    List (Reported (List Declaration)) :=
  (firsts stem before [t]).map (fun u => (Item.first home u).declare stem)

theorem ownBlocks_of_mem {stem : Text} {before : List Structure} {t : Structure}
    (h : structureName stem t ∈ before.map (structureName stem)) (home : Selection) :
    ownBlocks stem before home t = [] := by
  rw [ownBlocks, firsts_cons_of_mem h]
  rfl

theorem ownBlocks_of_not_mem {stem : Text} {before : List Structure} {t : Structure}
    (h : structureName stem t ∉ before.map (structureName stem)) (home : Selection) :
    ownBlocks stem before home t = [(Item.first home t).declare stem] := by
  rw [ownBlocks, firsts_cons_of_not_mem h]
  rfl

/-- Values come before fields: a structure with values has the same block whatever its schema is. -/
theorem ownBlocks_of_values {t : Structure} {values : List Text} (h : t.values = some values)
    (stem : Text) (before : List Structure) (home home' : Selection) (schema : Option Fields) :
    ownBlocks stem before home' { t with schema := schema } = ownBlocks stem before home t := by
  have hdeclare := Item.declare_of_values stem home h
  have hdeclare' := Item.declare_of_values stem home' (s := { t with schema := schema }) h
  by_cases hmem : structureName stem t ∈ before.map (structureName stem)
  · rw [ownBlocks_of_mem hmem, ownBlocks_of_mem (t := { t with schema := schema }) hmem]
  · rw [ownBlocks_of_not_mem hmem, ownBlocks_of_not_mem (t := { t with schema := schema }) hmem,
      hdeclare, hdeclare']
    rfl

theorem sectionBlocks_around (name : Text) (front back : List Selection) {s : Selection}
    {poolFront poolBack : List Structure} {t : Structure}
    (h : s.structures = poolFront ++ t :: poolBack) :
    let stem := Naming.sectionPrefix name
    let before := front.flatMap Selection.structures
    sectionBlocks name (front ++ s :: back) =
      ((items stem [] front).map (Item.declare stem) ++
        (firsts stem before poolFront).map (fun u => (Item.first s u).declare stem)) ++
      (ownBlocks stem (before ++ poolFront) s t ++
        ((firsts stem (before ++ poolFront ++ [t]) poolBack).map
            (fun u => (Item.first s u).declare stem) ++
          (Item.response s).declare stem ::
            (items stem (before ++ (poolFront ++ t :: poolBack)) back).map (Item.declare stem))) := by
  intro stem before
  have hsplit := firsts_append stem poolBack [t] (before ++ poolFront)
  rw [List.singleton_append] at hsplit
  rw [sectionBlocks_append_cons, h, firsts_append, hsplit, List.map_append, List.map_append]
  simp only [List.append_assoc]
  rfl

theorem Selection.referenceType_scope (stem : Text) {s : Selection} {front back : List Structure}
    {t : Structure} (schema : Option Fields) (h : s.structures = front ++ t :: back) (id : Text)
    (tag : ReferenceTag) :
    (Selection.scope stem
        { s with structures := front ++ { t with schema := schema } :: back }).referenceType id tag =
      (s.scope stem).referenceType id tag := by
  rw [Selection.scope, Selection.scope, h]
  exact Scope.referenceType_schema stem schema t front back id tag

/-- **A structure's schema shows in the structure's own block.** -/
theorem sectionBlocks_schema (name : Text) (front back : List Selection) {s : Selection}
    {poolFront poolBack : List Structure} {t : Structure} (schema : Option Fields)
    (h : s.structures = poolFront ++ t :: poolBack) :
    let stem := Naming.sectionPrefix name
    let s' := { s with structures := poolFront ++ { t with schema := schema } :: poolBack }
    ∃ before after,
      sectionBlocks name (front ++ s :: back) = before ++
        (ownBlocks stem (front.flatMap Selection.structures ++ poolFront) s t ++ after) ∧
      sectionBlocks name (front ++ s' :: back) = before ++
        (ownBlocks stem (front.flatMap Selection.structures ++ poolFront) s'
          { t with schema := schema } ++ after) := by
  intro stem s'
  have hshown : ∀ id tag, (s'.scope stem).referenceType id tag = (s.scope stem).referenceType id tag :=
    Selection.referenceType_scope stem schema h
  have hfirst : (fun u => (Item.first s' u).declare stem) = fun u => (Item.first s u).declare stem := by
    funext u
    rw [Item.declare, Item.declare, Structure.declare_congr hshown]
  have hresponse : (Item.response s').declare stem = (Item.response s).declare stem := by
    have hmembers : s.schema.members (s'.scope stem) = s.schema.members (s.scope stem) :=
      Fields.members_congr (fun r _ => hshown r.1 r.2)
    rw [Item.declare, Item.declare, Selection.declareResponse, Selection.declareResponse, hmembers]
    rfl
  -- what stands behind looks at the type names only
  have hfirsts : firsts stem (front.flatMap Selection.structures ++ poolFront ++
        [{ t with schema := schema }]) poolBack =
      firsts stem (front.flatMap Selection.structures ++ poolFront ++ [t]) poolBack :=
    firsts_congr poolBack (by simp [structureName])
  have hitems : items stem (front.flatMap Selection.structures ++
        (poolFront ++ { t with schema := schema } :: poolBack)) back =
      items stem (front.flatMap Selection.structures ++ (poolFront ++ t :: poolBack)) back :=
    items_congr back (by simp [structureName])
  refine ⟨_, _, sectionBlocks_around name front back h, ?_⟩
  rw [sectionBlocks_around name front back (s := s') rfl, hfirst, hresponse, hfirsts, hitems]

theorem sameButStructure_modify (name : Text) (i j : Nat) (schema : Option Fields)
    (selections : List Selection) :
    SameButStructure name i j selections
      (selections.modify i (fun s => s.withSchema j schema)) := by
  by_cases hi : i < selections.length
  · obtain ⟨front, s, back, rfl, rfl, hmodify⟩ :=
      List.exists_of_modify (fun s : Selection => s.withSchema j schema) hi
    rw [hmodify]
    by_cases hj : j < s.structures.length
    · obtain ⟨poolFront, t, poolBack, hpool, rfl, hmodify'⟩ :=
        List.exists_of_modify (fun t : Structure => { t with schema := schema }) hj
      have hs : s.withSchema poolFront.length schema =
          { s with structures := poolFront ++ { t with schema := schema } :: poolBack } := by
        rw [Selection.withSchema, hmodify']
      have hbefore : structuresBefore (front ++ s :: back) front.length poolFront.length =
          front.flatMap Selection.structures ++ poolFront := by
        simp [structuresBefore, hpool]
      obtain ⟨before, after, hold, hnew⟩ := sectionBlocks_schema name front back schema hpool
      rw [← hs] at hnew
      rw [← hbefore] at hold hnew
      have hset : front ++ s.withSchema poolFront.length schema :: back =
          (front ++ s :: back).set front.length (s.withSchema poolFront.length schema) := by
        simp
      refine .structure (s := s) (t := t) (by simp) (by simp [hpool]) hset (fun h => ?_)
        (fun h => ?_)
      · rw [sectionText_eq_renderBlocks, sectionText_eq_renderBlocks, hold, hnew]
        rcases h with h | h
        · obtain ⟨values, hvalues⟩ := Option.isSome_iff_exists.1 h
          rw [ownBlocks_of_values hvalues]
        · rw [ownBlocks_of_mem h, ownBlocks_of_mem (t := { t with schema := schema }) h]
      · rw [ownBlocks_of_not_mem h, List.singleton_append] at hold
        rw [ownBlocks_of_not_mem (t := { t with schema := schema }) h, List.singleton_append] at hnew
        exact ⟨before, after, hold, hnew⟩
    · have hself : s.withSchema j schema = s := by
        rw [Selection.withSchema, List.modify_eq_self (Nat.le_of_not_lt hj)]
      rw [hself]
      refine .outside ?_ rfl
      simp [List.getElem?_eq_none (Nat.le_of_not_lt hj)]
  · rw [List.modify_eq_self (Nat.le_of_not_lt hi)]
    exact .outside (by rw [List.getElem?_eq_none (Nat.le_of_not_lt hi)]; rfl) rfl

/-- **Whatever stands for a schema, a section's document is read or refused as before, and the text
made of it changes where that schema stands.**  The schema of a selection shows in the selection's
response, and that of a structure in the structure's own block: not at all if the structure has
values, or is not the first one of its type name. -/
theorem schema_stays_local (name : Text) (doc : Json) (i : Nat) (value : Option Json) :
    (∀ selections, sectionText name selections = renderBlocks (sectionBlocks name selections)) ∧
    Attempt.Alike (SameButResponse name i) (decodeSectionSchema doc)
      (decodeSectionSchema (doc.editSelection i (Json.setField "schema" 3 value))) ∧
    ∀ j, Attempt.Alike (SameButStructure name i j) (decodeSectionSchema doc)
      (decodeSectionSchema (doc.editStructure i j (Json.setField "schema" 4 value))) := by
  refine ⟨sectionText_eq_renderBlocks name, ?_, fun j => ?_⟩
  · have hread := follows_editSelection (Selection.follows_setField value) i doc
    refine hread.mono (fun selections selections' h => ?_)
    obtain ⟨schema, rfl⟩ := h
    exact sameButResponse_modify name i schema selections
  · have hstructure := Selection.follows_structure (Structure.follows_setField value) j
    have hread := follows_editSelection hstructure i doc
    refine hread.mono (fun selections selections' h => ?_)
    obtain ⟨schema, rfl⟩ := h
    exact sameButStructure_modify name i j schema selections

end ApiTypes
