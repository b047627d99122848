import ApiTypes.Proofs.Artifact.Sections
import ApiTypes.Proofs.Naming.Words
import ApiTypes.Proofs.Section.References
/-!
# The names that a section derives

Structures and responses have their names under one mark, and a response is named as a structure with
one word more would be.  So a structure can take the name of a response, and does so just if that
word is the last of its display name (`structures_named_as_responses`).  Between sections the mark
keeps names apart: with two prefixes that do not hold it themselves, no type name of the one section
is one of the other (`sections_kept_apart`).
-/
namespace ApiTypes

open Naming (structureName responseName sectionPrefix sanitize foldedParts IsLettered)

/-! ## Structures and responses -/

namespace Naming

theorem parts_response (name : Text) : parts (name ++ " response") = parts name ++ ["response".toList] :=
  parts_append (c := ' ') (by decide) name "response"

/-- A response is named as a structure of one word more. -/
theorem sanitize_response (name : Text) :
    sanitize (name ++ " response") = sanitize name ++ "Response" :=
  sanitize_append (c := ' ') (by decide) name "response"

theorem structureName_eq_responseName_iff (stem : Text) (s : Structure) (t : Selection) :
    structureName stem s = responseName stem t ↔ sanitize s.name = sanitize t.name ++ "Response" := by
  rw [structureName, responseName, List.append_assoc (stem ++ "V1".toList),
    List.append_cancel_left_eq]

theorem foldedParts_response (name : Text) :
    foldedParts (name ++ " response") = foldedParts name ++ ["response".toList] := by
  rw [foldedParts, parts_response, List.map_append]
  rfl

theorem isLettered_response {name : Text} (h : IsLettered name) :
    IsLettered (name ++ " response") := by
  have hword : IsLettered " response" := by decide
  refine ⟨fun c hc => ?_, fun p hp => ?_⟩
  · exact (List.mem_append.1 hc).elim (h.ascii c) (hword.ascii c)
  · rw [parts_response] at hp
    exact (List.mem_append.1 hp).elim (h.initial p) (hword.initial p)

/-- In ASCII a structure is named as a response just if its parts are those of the selection with
`response` behind them. -/
theorem structureName_eq_responseName_iff_of_lettered (stem : Text) {s : Structure} {t : Selection}
    (hs : IsLettered s.name) (ht : IsLettered t.name) :
    structureName stem s = responseName stem t ↔
      foldedParts s.name = foldedParts t.name ++ ["response".toList] := by
  rw [structureName_eq_responseName_iff, ← sanitize_response,
    sanitize_eq_iff hs (isLettered_response ht), foldedParts_response]

end Naming

theorem exists_structureDeclaration_iff {stem : Text} {selections : List Selection} {n : Text} :
    (∃ d ∈ structureDeclarations stem selections, d.name = n) ↔
      ∃ p, firstNamed stem selections n = some p ∧ p.2.hasShape = true := by
  have hfilter := filter_structureDeclarations stem selections n
  constructor
  · rintro ⟨d, hd, hn⟩
    have hmem : d ∈ (structureDeclarations stem selections).filter (fun d => d.name = n) :=
      List.mem_filter.2 ⟨hd, by simpa using hn⟩
    rw [hfilter, Option.mem_toList, Option.bind_eq_some_iff] at hmem
    obtain ⟨p, hp, hdecl⟩ := hmem
    refine ⟨p, hp, ?_⟩
    rw [← Structure.isSome_declaration? stem p.1, hdecl]
    rfl
  · rintro ⟨p, hp, hshape⟩
    rw [← Structure.isSome_declaration? stem p.1] at hshape
    obtain ⟨d, hdecl⟩ := Option.isSome_iff_exists.1 hshape
    have hmem : d ∈ (structureDeclarations stem selections).filter (fun d => d.name = n) := by
      rw [hfilter, hp, Option.bind_some, hdecl]
      exact List.mem_singleton.2 rfl
    obtain ⟨hd, hn⟩ := List.mem_filter.1 hmem
    exact ⟨d, hd, by simpa using hn⟩

def firstSpelled (selections : List Selection) (word : Text) : Option (Selection × Structure) :=
  (pooled selections).find? (fun p => sanitize p.2.name = word)

theorem of_firstSpelled {selections : List Selection} {word : Text} {p : Selection × Structure}
    (h : firstSpelled selections word = some p) :
    p ∈ pooled selections ∧ sanitize p.2.name = word :=
  ⟨List.mem_of_find?_eq_some h, by simpa using List.find?_some h⟩

theorem firstNamed_responseName (stem : Text) (selections : List Selection) (t : Selection) :
    firstNamed stem selections (responseName stem t) =
      firstSpelled selections (sanitize t.name ++ "Response") := by
  unfold firstNamed firstSpelled
  congr 1
  funext p
  rw [decide_eq_decide]
  exact Naming.structureName_eq_responseName_iff stem p.2 t

/-- **When a structure is declared under the name of a response.**  A section declares structures
and one response for each selection.  A structure is declared under the name of a response just if
some structure's display name becomes the word of the selection's with `Response` behind it, and the
first such structure has a shape.  In ASCII, with a letter in front of every part, `response` is then
the last part of the structure's name and the other parts are the selection's.  Without a structure
whose word ends in `Response` no two such names are the same. -/
theorem structures_named_as_responses (name : Text) (selections : List Selection) :
    let stem := sectionPrefix name
    (sectionText name selections).value =
      renderDeclarations (sectionDeclarations name selections).value ∧
    (sectionDeclarations name selections).value.Perm
      (structureDeclarations stem selections ++
        selections.map (Selection.responseDeclaration stem)) ∧
    (∀ t ∈ selections,
      ((∃ d ∈ structureDeclarations stem selections,
          d.name = (t.responseDeclaration stem).name) ↔
        ∃ p, firstSpelled selections (sanitize t.name ++ "Response") = some p ∧
          p.2.hasShape = true)) ∧
    (∀ (s : Structure) (t : Selection), IsLettered s.name → IsLettered t.name →
      (structureName stem s = (t.responseDeclaration stem).name ↔
        foldedParts s.name = foldedParts t.name ++ ["response".toList])) ∧
    ((∀ p ∈ pooled selections, ¬ ("Response" : Text) <:+ sanitize p.2.name) →
      ∀ d ∈ structureDeclarations stem selections, ∀ t ∈ selections,
        d.name ≠ (t.responseDeclaration stem).name) := by
  intro stem
  have htaken : ∀ t : Selection,
      (∃ d ∈ structureDeclarations stem selections, d.name = (t.responseDeclaration stem).name) ↔
        ∃ p, firstSpelled selections (sanitize t.name ++ "Response") = some p ∧
          p.2.hasShape = true := by
    intro t
    rw [← firstNamed_responseName stem]
    exact exists_structureDeclaration_iff (n := responseName stem t)
  refine ⟨rfl, perm_sectionDeclarations name selections, fun t _ => htaken t,
    fun s t hs ht => Naming.structureName_eq_responseName_iff_of_lettered stem hs ht, ?_⟩
  intro hword d hd t _ hname
  obtain ⟨p, hp, -⟩ := (htaken t).1 ⟨d, hd, hname⟩
  obtain ⟨hmem, hspelled⟩ := of_firstSpelled hp
  exact hword p hmem (hspelled ▸ List.suffix_append _ _)

def logSelections : List Selection :=
  [⟨"log", [], [], [("a", .primitive .plain "integer")],
    [⟨"1", "log response", none, none, some [("b", .primitive .plain "string")]⟩]⟩]

/-- **A structure can take the name of a response**: two interfaces are declared under it. -/
theorem not_structures_apart_from_responses :
    ¬ ∀ (name : Text) (selections : List Selection),
      ∀ d ∈ structureDeclarations (sectionPrefix name) selections, ∀ t ∈ selections,
        d.name ≠ (t.responseDeclaration (sectionPrefix name)).name := by
  intro h
  have hapart := h "user" logSelections
  revert hapart
  decide

theorem structures_named_as_responses_log :
    (∃ d ∈ structureDeclarations "User" logSelections,
      d.name = "UserV1LogResponse".toList) ∧
    structureName "User" ⟨"1", "log response", none, none, none⟩ =
      (Selection.responseDeclaration "User" ⟨"Log", [], [], [], []⟩).name ∧
    ∀ d ∈ structureDeclarations "User" (Artifact.barSchemas "user"),
      ∀ t ∈ Artifact.barSchemas "user", d.name ≠ (t.responseDeclaration "User").name := by
  obtain ⟨-, -, htaken, hlettered, -⟩ := structures_named_as_responses "user" logSelections
  obtain ⟨-, -, -, -, hfree⟩ := structures_named_as_responses "user" (Artifact.barSchemas "user")
  refine ⟨(htaken _ List.mem_cons_self).2 ⟨_, rfl, rfl⟩, ?_, hfree (by decide)⟩
  exact (hlettered ⟨"1", "log response", none, none, none⟩ ⟨"Log", [], [], [], []⟩ (by decide)
    (by decide)).2 (by decide)

/-! ## Names under different marks -/

/-- **A mark of two different characters tells texts in front of it apart** that do not hold it. -/
theorem eq_of_marked_eq {α : Type} {v w : α} (hne : v ≠ w) {p q x y : List α}
    (hp : ¬ [v, w] <:+: p) (hq : ¬ [v, w] <:+: q) (h : p ++ ([v, w] ++ x) = q ++ ([v, w] ++ y)) :
    p = q := by
  -- of two marks one stands behind the other, or they overlap
  have hoverlap : ∀ {p c x y : List α}, ¬ [v, w] <:+: p ++ c →
      [v, w] ++ x = c ++ ([v, w] ++ y) → c = [] := by
    intro p c x y hfree h
    match c with
    | [] => rfl
    | [a] =>
      obtain ⟨-, hw⟩ := List.cons.inj h
      obtain ⟨hw, -⟩ := List.cons.inj hw
      exact absurd hw.symm hne
    | a :: b :: rest =>
      obtain ⟨rfl, hb⟩ := List.cons.inj h
      obtain ⟨rfl, -⟩ := List.cons.inj hb
      exact absurd ⟨p, rest, by simp⟩ hfree
  rcases List.append_eq_append_iff.1 h with ⟨c, rfl, hc⟩ | ⟨c, rfl, hc⟩
  · rw [hoverlap hq hc, List.append_nil]
  · rw [hoverlap hp hc, List.append_nil]

namespace Naming

/-- The type names that a section with a prefix can derive. -/
inductive Derived (stem : Text) : Text → Prop
  | ofStructure (s : Structure) : Derived stem (structureName stem s)
  | ofResponse (t : Selection) : Derived stem (responseName stem t)

variable {stem : Text} {n : Text}

theorem Derived.marked (h : Derived stem n) : ∃ rest, n = stem ++ ("V1".toList ++ rest) := by
  cases h with
  | ofStructure s => exact ⟨_, List.append_assoc _ _ _⟩
  | ofResponse t => exact ⟨_, by rw [responseName, List.append_assoc, List.append_assoc]⟩

theorem Derived.not_basic (h : Derived stem n) : n ∉ TypeExpr.basicNames := by
  obtain ⟨rest, rfl⟩ := h.marked
  have hdigit : '1' ∈ stem ++ ("V1".toList ++ rest) :=
    List.mem_append_right _ (List.mem_append_left _ (by decide))
  have hbasic : ∀ b ∈ TypeExpr.basicNames, '1' ∉ b := by decide
  exact fun hn => hbasic _ hn hdigit

theorem Derived.ne {other m : Text} (hm : Derived stem m) (hn : Derived other n)
    (hne : stem ≠ other) (hstem : ¬ ("V1" : Text) <:+: stem) (hother : ¬ ("V1" : Text) <:+: other) :
    m ≠ n := by
  obtain ⟨x, rfl⟩ := hm.marked
  obtain ⟨y, rfl⟩ := hn.marked
  exact fun h => hne (eq_of_marked_eq (by decide) hstem hother h)

end Naming

theorem derived_of_mem_sectionDeclarations {name : Text} {selections : List Selection}
    {d : Declaration} (hd : d ∈ (sectionDeclarations name selections).value) :
    Naming.Derived (sectionPrefix name) d.name := by
  rcases name_of_mem_sectionDeclarations hd with ⟨-, -, s, -, hname⟩ | ⟨t, -, hname⟩
  · rw [hname]
    exact .ofStructure s
  · rw [hname]
    exact .ofResponse t

theorem derived_of_mentions {name : Text} {selections : List Selection} {d : Declaration}
    (hd : d ∈ (sectionDeclarations name selections).value) {n : Text} (hn : n ∈ d.mentions) :
    n ∈ TypeExpr.basicNames ∨ Naming.Derived (sectionPrefix name) n := by
  refine (accounts_sectionDeclarations name selections d hd n hn).imp_right ?_
  rintro ⟨-, -, -, -, s, -, rfl⟩
  exact .ofStructure s

/-- **Sections are kept apart by their prefixes.**  If the prefixes of two sections differ and do not
hold the mark, no type name that the one derives is one that the other derives.  So in an artifact
that lists both, no declaration of the one has the name of a declaration of the other, or mentions
it. -/
theorem sections_kept_apart (a b : Text) (hne : sectionPrefix a ≠ sectionPrefix b)
    (ha : ¬ ("V1" : Text) <:+: sectionPrefix a) (hb : ¬ ("V1" : Text) <:+: sectionPrefix b) :
    (∀ m n, Naming.Derived (sectionPrefix a) m → Naming.Derived (sectionPrefix b) n → m ≠ n) ∧
    ∀ (source : Source) names errors schemas, source.Answers names errors schemas →
      a ∈ names → b ∈ names →
        Artifact.generate source = .ok (Artifact.ofBlocks source.origin errors
          (names.map (fun name => Artifact.block name (schemas name)))) ∧
        ∀ d ∈ (sectionDeclarations a (schemas a)).value,
          ∀ e ∈ (sectionDeclarations b (schemas b)).value,
            d.name ≠ e.name ∧ d.name ∉ e.mentions ∧ e.name ∉ d.mentions := by
  have hapart : ∀ m n, Naming.Derived (sectionPrefix a) m → Naming.Derived (sectionPrefix b) n →
      m ≠ n := fun m n hm hn => hm.ne hn hne ha hb
  refine ⟨hapart, fun source names errors schemas hanswers _ _ =>
    ⟨Artifact.generate_of_answers hanswers, fun d hd e he => ?_⟩⟩
  have hdname := derived_of_mem_sectionDeclarations hd
  have hename := derived_of_mem_sectionDeclarations he
  refine ⟨hapart _ _ hdname hename, fun hmention => ?_, fun hmention => ?_⟩
  · rcases derived_of_mentions he hmention with hbasic | hderived
    · exact hdname.not_basic hbasic
    · exact hapart _ _ hdname hderived rfl
  · rcases derived_of_mentions hd hmention with hbasic | hderived
    · exact hename.not_basic hbasic
    · exact hapart _ _ hderived hename rfl

theorem sections_kept_apart_overlapping :
    sectionPrefix "user" = "User" ∧ sectionPrefix "userV" = "UserV" ∧
    structureName "User" ⟨"1", "V1 bar", none, none, none⟩ ≠
      structureName "UserV" ⟨"1", "bar", none, none, none⟩ ∧
    ∀ d ∈ (sectionDeclarations "user" (Artifact.barSchemas "user")).value,
      ∀ e ∈ (sectionDeclarations "userV" (Artifact.barSchemas "userV")).value,
        d.name ≠ e.name ∧ d.name ∉ e.mentions ∧ e.name ∉ d.mentions := by
  obtain ⟨hderived, hartifact⟩ :=
    sections_kept_apart "user" "userV" (by decide) (by decide) (by decide)
  have hanswers : Source.Answers { Artifact.barSource with sections := .ok ["user", "userV"] }
      ["user", "userV"] [⟨2, "Incorrect Key", []⟩] Artifact.barSchemas :=
    ⟨rfl, rfl, fun _ _ => rfl⟩
  refine ⟨rfl, rfl, hderived _ _ (.ofStructure _) (.ofStructure _), ?_⟩
  exact (hartifact _ _ _ _ hanswers List.mem_cons_self
    (List.mem_cons_of_mem _ List.mem_cons_self)).2

end ApiTypes
