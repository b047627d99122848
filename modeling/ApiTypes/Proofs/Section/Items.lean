import ApiTypes.Declaration
/-!
# What a section declares

The declarations of a section are made in two steps that do not disturb each other.  `items` says
what is declared and in which order; it looks at type names only.  `Item.declare` makes the
declaration of one item within the scope of the selection it belongs to.  The registry that is
handed from selection to selection does the first step and nothing else (`declareAll_eq`).
-/
namespace ApiTypes

open Naming (structureName)

/-- One thing that a section declares. -/
inductive Item where
  /-- A structure that is the first of its type name, with the selection whose pool holds it. -/
  | first (home : Selection) (s : Structure)
  | response (s : Selection)

namespace Item

def declare (stem : Text) : Item → Reported (List Declaration)
  | .first home s => do
    return (← s.declare (home.scope stem) (structureName stem s)).toList
  | .response s => do return [← s.declareResponse (s.scope stem)]

def declareAll (stem : Text) : List Item → Reported (List Declaration)
  | [] => pure []
  | i :: rest => do
    let own ← i.declare stem
    let others ← declareAll stem rest
    return own ++ others

theorem declareAll_append (stem : Text) (b : List Item) : ∀ a : List Item,
    declareAll stem (a ++ b) = (do
      let own ← declareAll stem a
      let others ← declareAll stem b
      return own ++ others)
  | [] => by simp [declareAll]
  | i :: rest => by
    simp only [List.cons_append, declareAll, declareAll_append stem b rest, bind_assoc, pure_bind,
      List.append_assoc]

theorem value_declareAll (stem : Text) : ∀ l : List Item,
    (declareAll stem l).value = l.flatMap (fun i => (i.declare stem).value)
  | [] => rfl
  | i :: rest => by
    simp only [declareAll, Reported.value_bind, Reported.value_pure, List.flatMap_cons,
      value_declareAll stem rest]

theorem diagnostics_declareAll (stem : Text) : ∀ l : List Item,
    (declareAll stem l).diagnostics = l.flatMap (fun i => (i.declare stem).diagnostics)
  | [] => rfl
  | i :: rest => by
    simp only [declareAll, Reported.diagnostics_bind, Reported.diagnostics_pure, List.append_nil,
      List.flatMap_cons, diagnostics_declareAll stem rest]

end Item

/-! ## Which structures come first

`before` are the structures in front, those of the same pool and those of the selections before:
a structure is the first of its type name if none of them has the name. -/

/-- The structures of a pool that are the first of their type name. -/
def firsts (stem : Text) : (before : List Structure) → List Structure → List Structure
  | _, [] => []
  | before, s :: rest =>
    if (before.map (structureName stem)).contains (structureName stem s) then
      firsts stem (before ++ [s]) rest
    else s :: firsts stem (before ++ [s]) rest

theorem firsts_cons_of_mem {stem : Text} {before : List Structure} {s : Structure}
    (h : structureName stem s ∈ before.map (structureName stem)) (rest : List Structure) :
    firsts stem before (s :: rest) = firsts stem (before ++ [s]) rest := by
  rw [firsts, if_pos (List.contains_iff_mem.2 h)]

theorem firsts_cons_of_not_mem {stem : Text} {before : List Structure} {s : Structure}
    (h : structureName stem s ∉ before.map (structureName stem)) (rest : List Structure) :
    firsts stem before (s :: rest) = s :: firsts stem (before ++ [s]) rest := by
  rw [firsts, if_neg (fun hc => h (List.contains_iff_mem.1 hc))]

/-- What selections declare: for each of them the first structures of its pool, then its
response. -/
def items (stem : Text) : (before : List Structure) → List Selection → List Item
  | _, [] => []
  | before, s :: rest =>
    (firsts stem before s.structures).map (.first s) ++
      .response s :: items stem (before ++ s.structures) rest

/-! ## The registry knows the structures in front -/

def Registry.Knows (r : Registry) (stem : Text) (before : List Structure) : Prop :=
  ∀ name, r.contains name = true ↔ name ∈ before.map (structureName stem)

namespace Registry

theorem knows_empty (stem : Text) : empty.Knows stem [] := by
  intro name
  rw [contains_empty]
  simp

/-- **One registration**: it tells whether the structure is the first of its type name, and
afterwards the structure is one of those in front. -/
theorem knows_register {r : Registry} {stem : Text} {before : List Structure}
    (h : r.Knows stem before) (s : Structure) :
    ((r.register (structureName stem s)).1 = true ↔
        structureName stem s ∉ before.map (structureName stem)) ∧
      (r.register (structureName stem s)).2.Knows stem (before ++ [s]) := by
  constructor
  · rw [isNew_register, Bool.not_eq_true', ← h, Bool.not_eq_true]
  · intro name
    rw [contains_register, Bool.or_eq_true, h name, List.map_append, List.mem_append,
      beq_iff_eq, List.map_singleton, List.mem_singleton]
    exact ⟨fun hn => hn.symm.imp_right Eq.symm, fun hn => (hn.imp_right Eq.symm).symm⟩

end Registry

namespace Selection

theorem declareStructures_eq (stem : Text) (home : Selection) :
    ∀ (pool before : List Structure) (r : Registry), r.Knows stem before →
      ∃ r', Registry.Knows r' stem (before ++ pool) ∧
        declareStructures (home.scope stem) pool r = (do
          let ds ← Item.declareAll stem ((firsts stem before pool).map (.first home))
          return (ds, r'))
  | [], before, r, h => ⟨r, by rw [List.append_nil]; exact h, by
      simp [declareStructures, firsts, Item.declareAll]⟩
  | s :: rest, before, r, h => by
    obtain ⟨hnew, hknows⟩ := Registry.knows_register h s
    obtain ⟨r', hr', ih⟩ := declareStructures_eq stem home rest (before ++ [s]) _ hknows
    refine ⟨r', by rw [List.append_cons]; exact hr', ?_⟩
    have hstem : structureName (home.scope stem).stem s = structureName stem s := rfl
    -- the registry's answer is whether a structure in front has the name
    generalize hreg : r.register (structureName stem s) = answer at hnew ih
    obtain ⟨isNew, registry⟩ := answer
    cases isNew with
    | false =>
      have hseen : structureName stem s ∈ before.map (structureName stem) := by
        simpa using hnew
      rw [declareStructures, hstem, hreg, firsts_cons_of_mem hseen]
      exact ih
    | true =>
      have hunseen : structureName stem s ∉ before.map (structureName stem) := hnew.1 rfl
      rw [declareStructures, hstem, hreg, firsts_cons_of_not_mem hunseen]
      simp only [List.map_cons, Item.declareAll, Item.declare, bind_assoc, pure_bind]
      rw [ih]
      simp only [bind_assoc, pure_bind]

theorem declareAll_eq (stem : Text) :
    ∀ (selections : List Selection) (before : List Structure) (r : Registry),
      r.Knows stem before →
        declareAll stem selections r = Item.declareAll stem (items stem before selections)
  | [], _, _, _ => rfl
  | s :: rest, before, r, h => by
    obtain ⟨r', hr', hpool⟩ := declareStructures_eq stem s s.structures before r h
    have ih := declareAll_eq stem rest (before ++ s.structures) r' hr'
    have hitem : (Item.response s).declare stem = (do
        return [← s.declareResponse (s.scope stem)]) := rfl
    rw [declareAll, declare, hpool, items, Item.declareAll_append, Item.declareAll, hitem]
    simp only [bind_assoc, pure_bind, ih, List.append_assoc, List.cons_append, List.nil_append]

end Selection

/-- **The declarations of a section are those of its items.** -/
theorem sectionDeclarations_eq (name : Text) (selections : List Selection) :
    sectionDeclarations name selections =
      Item.declareAll (Naming.sectionPrefix name)
        (items (Naming.sectionPrefix name) [] selections) :=
  Selection.declareAll_eq _ selections [] .empty (Registry.knows_empty _)

theorem value_sectionDeclarations (name : Text) (selections : List Selection) :
    (sectionDeclarations name selections).value =
      (items (Naming.sectionPrefix name) [] selections).flatMap
        (fun i => (i.declare (Naming.sectionPrefix name)).value) := by
  rw [sectionDeclarations_eq, Item.value_declareAll]

theorem value_sectionText (name : Text) (selections : List Selection) :
    (sectionText name selections).value = renderDeclarations
      ((items (Naming.sectionPrefix name) [] selections).flatMap
        (fun i => (i.declare (Naming.sectionPrefix name)).value)) :=
  congrArg renderDeclarations (value_sectionDeclarations name selections)

theorem diagnostics_sectionText_items (name : Text) (selections : List Selection) :
    (sectionText name selections).diagnostics =
      (items (Naming.sectionPrefix name) [] selections).flatMap
        (fun i => (i.declare (Naming.sectionPrefix name)).diagnostics) := by
  rw [← Item.diagnostics_declareAll, ← sectionDeclarations_eq, sectionText,
    Reported.diagnostics_bind, Reported.diagnostics_pure, List.append_nil]

/-! ## The first structure of a type name -/

def pooled (selections : List Selection) : List (Selection × Structure) :=
  selections.flatMap (fun home => home.structures.map (fun s => (home, s)))

def firstNamed (stem : Text) (selections : List Selection) (name : Text) :
    Option (Selection × Structure) :=
  (pooled selections).find? (fun p => structureName stem p.2 = name)

def Item.structure? : Item → Option (Selection × Structure)
  | .first home s => some (home, s)
  | .response _ => none

def Item.response? : Item → Option Selection
  | .first _ _ => none
  | .response s => some s

/-- Of a type name, `firsts` keeps the first structure of the pool, and none if a structure in
front has the name. -/
theorem filter_firsts (stem name : Text) : ∀ pool before : List Structure,
    (firsts stem before pool).filter (fun s => structureName stem s = name) =
      if name ∈ before.map (structureName stem) then []
      else (pool.find? (fun s => structureName stem s = name)).toList
  | [], before => by simp [firsts]
  | s :: rest, before => by
    have ih := filter_firsts stem name rest (before ++ [s])
    rw [List.map_append, List.map_singleton] at ih
    by_cases hn : structureName stem s = name
    · subst hn
      rw [if_pos (List.mem_append_right _ List.mem_cons_self)] at ih
      by_cases hs : structureName stem s ∈ before.map (structureName stem)
      · rw [firsts_cons_of_mem hs, if_pos hs, ih]
      · rw [firsts_cons_of_not_mem hs, if_neg hs, List.filter_cons_of_pos (by simp), ih]
        simp
    · -- a structure of another name changes neither side
      have hmem : name ∈ before.map (structureName stem) ++ [structureName stem s] ↔
          name ∈ before.map (structureName stem) := by
        rw [List.mem_append, List.mem_singleton]
        exact ⟨fun h => h.resolve_right (fun e => hn e.symm), Or.inl⟩
      simp only [hmem] at ih
      have hfind : (s :: rest).find? (fun s => structureName stem s = name) =
          rest.find? (fun s => structureName stem s = name) :=
        List.find?_cons_of_neg (by simpa using hn)
      rw [hfind, ← ih, firsts]
      split
      · rfl
      · rw [List.filter_cons_of_neg (by simpa using hn)]

/-- **Of a type name, the items hold the first structure of the section.** -/
theorem filter_structures_items (stem name : Text) :
    ∀ (selections : List Selection) (before : List Structure),
      ((items stem before selections).filterMap Item.structure?).filter
          (fun p => structureName stem p.2 = name) =
        if name ∈ before.map (structureName stem) then []
        else (firstNamed stem selections name).toList
  | [], before => by simp [items, firstNamed, pooled]
  | s :: rest, before => by
    have ih := filter_structures_items stem name rest (before ++ s.structures)
    have hown : ((firsts stem before s.structures).map (Item.first s)).filterMap Item.structure? =
        (firsts stem before s.structures).map (fun t => (s, t)) := by
      rw [List.filterMap_map, ← List.filterMap_eq_map]
      rfl
    have hpool : ((firsts stem before s.structures).map (fun t => (s, t))).filter
          (fun p => structureName stem p.2 = name) =
        ((firsts stem before s.structures).filter (fun t => structureName stem t = name)).map
          (fun t => (s, t)) := List.filter_map
    have hname : ((fun p => decide (structureName stem p.2 = name)) ∘ fun t => (s, t)) =
        fun t => decide (structureName stem t = name) := rfl
    rw [items, List.filterMap_append, List.filterMap_cons_none rfl, hown, List.filter_append, hpool,
      filter_firsts, ih, List.map_append, firstNamed, firstNamed, pooled, pooled, List.flatMap_cons,
      List.find?_append, List.find?_map, hname]
    by_cases hb : name ∈ before.map (structureName stem)
    · simp [hb]
    · cases hf : s.structures.find? (fun t => structureName stem t = name) with
      | none =>
        have hs : name ∉ s.structures.map (structureName stem) := by
          intro h
          obtain ⟨t, ht, hn⟩ := List.mem_map.1 h
          simpa [hn] using List.find?_eq_none.1 hf t ht
        simp [hb, hs]
      | some t =>
        have hs : name ∈ s.structures.map (structureName stem) :=
          List.mem_map.2 ⟨t, List.mem_of_find?_eq_some hf, by simpa using List.find?_some hf⟩
        simp [hb, hs]

theorem filterMap_response_items (stem : Text) :
    ∀ (selections : List Selection) (before : List Structure),
      (items stem before selections).filterMap Item.response? = selections
  | [], _ => rfl
  | s :: rest, before => by
    have hpool : ((firsts stem before s.structures).map (Item.first s)).filterMap Item.response? =
        [] := by
      rw [List.filterMap_map]
      exact List.filterMap_eq_nil_iff.2 (fun _ _ => rfl)
    have hrest : (Item.response s :: items stem (before ++ s.structures) rest).filterMap
        Item.response? = s :: rest := by
      rw [List.filterMap_cons, filterMap_response_items stem rest]
      rfl
    rw [items, List.filterMap_append, hpool, hrest, List.nil_append]

theorem mem_of_response_mem_items {stem : Text} {selections : List Selection} {s : Selection}
    (h : .response s ∈ items stem [] selections) : s ∈ selections := by
  rw [← filterMap_response_items stem selections []]
  exact List.mem_filterMap.2 ⟨_, h, rfl⟩

theorem mem_of_mem_firsts (stem : Text) : ∀ (pool before : List Structure) {s : Structure},
    s ∈ firsts stem before pool → s ∈ pool
  | [], _, _, h => h
  | t :: rest, before, s, h => by
    unfold firsts at h
    split at h
    · exact List.mem_cons_of_mem t (mem_of_mem_firsts stem rest _ h)
    · rcases List.mem_cons.1 h with rfl | h
      · exact List.mem_cons_self
      · exact List.mem_cons_of_mem t (mem_of_mem_firsts stem rest _ h)

theorem mem_of_first_mem_items (stem : Text) {home : Selection} {s : Structure} :
    ∀ (selections : List Selection) (before : List Structure),
      Item.first home s ∈ items stem before selections → home ∈ selections ∧ s ∈ home.structures
  | [], _, h => by cases h
  | t :: rest, before, h => by
    rcases List.mem_append.1 h with h | h
    · obtain ⟨u, hu, e⟩ := List.mem_map.1 h
      cases e
      exact ⟨List.mem_cons_self, mem_of_mem_firsts stem _ _ hu⟩
    · rcases List.mem_cons.1 h with e | h
      · cases e
      · exact (mem_of_first_mem_items stem rest _ h).imp_left (List.mem_cons_of_mem t)

/-! ## The declarations of structures -/

/-- The declaration of a structure in the scope of a selection: its values if it has any list of
them, else an interface of its fields, and none without a shape. -/
def Structure.declaration? (stem : Text) (home : Selection) (s : Structure) : Option Declaration :=
  match s.values, s.schema with
  | some values, _ => some (.alias (structureName stem s) (.ofLiterals values))
  | none, some fields =>
    some (.interface (structureName stem s) (fields.members (home.scope stem)).value)
  | none, none => none

def Structure.hasShape (s : Structure) : Bool := s.values.isSome || s.schema.isSome

theorem Structure.value_declare (stem : Text) (home : Selection) (s : Structure) :
    (s.declare (home.scope stem) (structureName stem s)).value = s.declaration? stem home := by
  unfold declare declaration?
  cases s.values <;> cases s.schema <;> rfl

theorem Structure.isSome_declaration? (stem : Text) (home : Selection) (s : Structure) :
    (s.declaration? stem home).isSome = s.hasShape := by
  unfold declaration? hasShape
  cases s.values <;> cases s.schema <;> rfl

theorem Structure.name_of_declaration? {stem : Text} {home : Selection} {s : Structure}
    {d : Declaration} (h : s.declaration? stem home = some d) : d.name = structureName stem s := by
  unfold declaration? at h
  split at h <;> cases h <;> rfl

theorem Item.value_declare_first (stem : Text) (home : Selection) (s : Structure) :
    ((Item.first home s).declare stem).value = (s.declaration? stem home).toList := by
  rw [← Structure.value_declare]
  rfl

def structureDeclarations (stem : Text) (selections : List Selection) : List Declaration :=
  ((items stem [] selections).filterMap Item.structure?).filterMap
    (fun p => p.2.declaration? stem p.1)

/-- **Under a type name, the section declares its first structure of that name**, in the scope of
the selection that has it, and nothing if that structure has no shape. -/
theorem filter_structureDeclarations (stem : Text) (selections : List Selection) (name : Text) :
    (structureDeclarations stem selections).filter (fun d => d.name = name) =
      ((firstNamed stem selections name).bind (fun p => p.2.declaration? stem p.1)).toList := by
  have hname : ∀ p : Selection × Structure,
      (p.2.declaration? stem p.1).filter (fun d => d.name = name) =
        if structureName stem p.2 = name then p.2.declaration? stem p.1 else none := by
    intro p
    cases hd : p.2.declaration? stem p.1 with
    | none => simp
    | some d =>
      rw [← Structure.name_of_declaration? hd]
      by_cases h : d.name = name <;> simp [Option.filter, h]
  have hfilter : ∀ l : List (Selection × Structure),
      (l.filterMap (fun p => p.2.declaration? stem p.1)).filter (fun d => d.name = name) =
        (l.filter (fun p => structureName stem p.2 = name)).filterMap
          (fun p => p.2.declaration? stem p.1) := by
    intro l
    rw [List.filter_filterMap, List.filterMap_filter]
    congr 1
    funext p
    simpa using hname p
  rw [structureDeclarations, hfilter, filter_structures_items, if_neg (by simp)]
  cases firstNamed stem selections name with
  | none => rfl
  | some p => cases hd : p.2.declaration? stem p.1 <;> simp [hd]

/-- **No type name is declared twice by structures.** -/
theorem nodup_structureDeclarations (stem : Text) (selections : List Selection) :
    ((structureDeclarations stem selections).map Declaration.name).Nodup := by
  refine List.nodup_iff_count.2 (fun name => ?_)
  rw [List.count_eq_countP, List.countP_map, List.countP_eq_length_filter]
  have hname : (structureDeclarations stem selections).filter ((fun n => n == name) ∘ Declaration.name)
      = (structureDeclarations stem selections).filter (fun d => d.name = name) :=
    List.filter_congr (fun d _ => by rw [Bool.eq_iff_iff]; simp)
  rw [hname, filter_structureDeclarations]
  cases (firstNamed stem selections name).bind (fun p => p.2.declaration? stem p.1) with
  | none => exact Nat.zero_le 1
  | some d => exact Nat.le_refl 1

/-! ## All declarations of a section -/

def Selection.responseDeclaration (stem : Text) (t : Selection) : Declaration :=
  .interface (Naming.responseName stem t) (t.schema.members (t.scope stem)).value

theorem Item.value_declare_response (stem : Text) (t : Selection) :
    ((Item.response t).declare stem).value = [t.responseDeclaration stem] := rfl

theorem perm_declare_items (stem : Text) : ∀ l : List Item,
    (l.flatMap (fun i => (i.declare stem).value)).Perm
      ((l.filterMap Item.structure?).filterMap (fun p => p.2.declaration? stem p.1) ++
        (l.filterMap Item.response?).map (Selection.responseDeclaration stem))
  | [] => .nil
  | .first home s :: rest => by
    have hhead : (Item.first home s :: rest).filterMap Item.structure? =
        (home, s) :: rest.filterMap Item.structure? := List.filterMap_cons_some rfl
    have htail : (Item.first home s :: rest).filterMap Item.response? =
        rest.filterMap Item.response? := List.filterMap_cons_none rfl
    rw [List.flatMap_cons, Item.value_declare_first, hhead, htail, List.filterMap_cons]
    cases s.declaration? stem home with
    | none => exact perm_declare_items stem rest
    | some d => exact (perm_declare_items stem rest).cons d
  | .response t :: rest => by
    have hhead : (Item.response t :: rest).filterMap Item.structure? =
        rest.filterMap Item.structure? := List.filterMap_cons_none rfl
    have htail : (Item.response t :: rest).filterMap Item.response? =
        t :: rest.filterMap Item.response? := List.filterMap_cons_some rfl
    rw [List.flatMap_cons, Item.value_declare_response, hhead, htail, List.map_cons]
    exact ((perm_declare_items stem rest).cons _).trans List.perm_middle.symm

/-- **A section declares its structures and, for each selection, its response**, and nothing else. -/
theorem perm_sectionDeclarations (name : Text) (selections : List Selection) :
    (sectionDeclarations name selections).value.Perm
      (structureDeclarations (Naming.sectionPrefix name) selections ++
        selections.map (Selection.responseDeclaration (Naming.sectionPrefix name))) := by
  have h := perm_declare_items (Naming.sectionPrefix name)
    (items (Naming.sectionPrefix name) [] selections)
  rw [filterMap_response_items] at h
  rw [value_sectionDeclarations]
  exact h

theorem name_of_mem_sectionDeclarations {name : Text} {selections : List Selection} {d : Declaration}
    (hd : d ∈ (sectionDeclarations name selections).value) :
    (∃ home ∈ selections, ∃ s ∈ home.structures,
      d.name = structureName (Naming.sectionPrefix name) s) ∨
      ∃ t ∈ selections, d.name = Naming.responseName (Naming.sectionPrefix name) t := by
  rcases List.mem_append.1 ((perm_sectionDeclarations name selections).mem_iff.1 hd) with hd | hd
  · obtain ⟨⟨home, s⟩, hp, hdecl⟩ := List.mem_filterMap.1 hd
    obtain ⟨i, hi, hstructure⟩ := List.mem_filterMap.1 hp
    cases i with
    | first home' s' =>
      cases hstructure
      obtain ⟨hhome, hs⟩ := mem_of_first_mem_items _ selections [] hi
      exact Or.inl ⟨home, hhome, s, hs, Structure.name_of_declaration? hdecl⟩
    | response t => cases hstructure
  · obtain ⟨t, ht, rfl⟩ := List.mem_map.1 hd
    exact Or.inr ⟨t, ht, rfl⟩

end ApiTypes
