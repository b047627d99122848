import ApiTypes.Artifact
import ApiTypes.Proofs.Attempt
import ApiTypes.Proofs.Section.Items
/-!
# The sections of an artifact

A run asks its source for the section list, the error table and each listed section, and the answers
decide everything.  A section's block is made from the answer to its own request alone: which other
sections are listed, and where, has no part in it (`generate_sectionwise`).
-/
namespace ApiTypes

/-! ## An artifact is made of blocks -/

namespace Artifact

def header (origin : Text) : List Text :=
  ["// Auto-generated TypeScript types for Torn API V1", "// Generated from: " ++ origin, ""]

def footer (errors : List ErrorEntry) : List Text :=
  ["", "// ===== ERROR CODES =====", "", ErrorEnum.render errors]

def block (name : Text) (selections : List Selection) : Reported Text :=
  ⟨"// ===== " ++ name.upper ++ " SECTION =====\n\n" ++ (sectionText name selections).value,
    (sectionText name selections).diagnostics⟩

theorem value_block (name : Text) (selections : List Selection) :
    (block name selections).value = sectionBlock name (sectionText name selections).value := rfl

theorem diagnostics_block (name : Text) (selections : List Selection) :
    (block name selections).diagnostics = (sectionText name selections).diagnostics := rfl

def blockOf (source : Source) (name : Text) : Except Failure (Reported Text) := do
  return block name (← source.schema name)

def ofBlocks (origin : Text) (errors : List ErrorEntry) (blocks : List (Reported Text)) :
    Reported Text :=
  ⟨Text.joinLines (header origin ++ blocks.map Reported.value ++ footer errors),
    blocks.flatMap Reported.diagnostics⟩

theorem blocks_of_sections (source : Source) : ∀ names : List Text,
    (do
      let sections ← names.mapM (sectionOf source)
      return (List.zipWith sectionBlock names (sections.map Reported.value),
        sections.flatMap Reported.diagnostics)) =
    (do
      let blocks ← names.mapM (blockOf source)
      return (blocks.map Reported.value, blocks.flatMap Reported.diagnostics))
  | [] => rfl
  | name :: rest => by
    have ih := congrArg (fun made => (do
      let s ← source.schema name
      let (texts, remarks) ← made
      return ((block name s).value :: texts, (block name s).diagnostics ++ remarks)))
      (blocks_of_sections source rest)
    simpa [sectionOf, blockOf, value_block, diagnostics_block] using ih

/-- **A run, block by block.** -/
theorem generate_eq (source : Source) : generate source = (do
    let names ← source.sections
    let errors ← source.errors
    let blocks ← names.mapM (blockOf source)
    return ofBlocks source.origin errors blocks) := by
  rw [generate, index]
  simp only [bind_assoc, pure_bind]
  congr 1
  funext names
  congr 1
  funext errors
  have h := congrArg (fun made => (do
    let (texts, remarks) ← made
    return Reported.mk (Text.joinLines (header source.origin ++ texts ++ footer errors)) remarks))
    (blocks_of_sections source names)
  simpa [ofBlocks, assemble, header, footer] using h

theorem blockOf_eq_ok_iff {source : Source} {name : Text} {b : Reported Text} :
    blockOf source name = .ok b ↔
      ∃ selections, source.schema name = .ok selections ∧ b = block name selections := by
  simp only [blockOf, Attempt.bind_eq_ok_iff, Attempt.pure_eq_ok_iff]

theorem blockOf_eq_error_iff {source : Source} {name : Text} {f : Failure} :
    blockOf source name = .error f ↔ source.schema name = .error f := by
  simp only [blockOf, Attempt.bind_eq_error_iff, Attempt.pure_ne_error, and_false, exists_const,
    or_false]

end Artifact

/-! ## What a source answers -/

namespace Source

/-- The source answers every request of a run: with section names, with error codes, and for each of
the names with selections. -/
structure Answers (source : Source) (names : List Text) (errors : List ErrorEntry)
    (schemas : Text → List Selection) : Prop where
  sections : source.sections = .ok names
  errors : source.errors = .ok errors
  schemas : ∀ name ∈ names, source.schema name = .ok (schemas name)

/-- The first request that the source fails, in the order of a run. -/
inductive Fails (source : Source) (f : Failure) : Prop where
  | sections (h : source.sections = .error f)
  | errors {names : List Text} (hnames : source.sections = .ok names)
      (h : source.errors = .error f)
  | schema {before after : List Text} {name : Text} {errors : List ErrorEntry}
      (hnames : source.sections = .ok (before ++ name :: after))
      (herrors : source.errors = .ok errors)
      (hbefore : ∀ n ∈ before, ∃ selections, source.schema n = .ok selections)
      (h : source.schema name = .error f)

theorem exists_answers {source : Source} {names : List Text} {errors : List ErrorEntry}
    (hnames : source.sections = .ok names) (herrors : source.errors = .ok errors)
    (h : ∀ name ∈ names, ∃ selections, source.schema name = .ok selections) :
    ∃ schemas, source.Answers names errors schemas := by
  refine ⟨fun name => ((source.schema name).toOption).getD [], hnames, herrors, fun name hn => ?_⟩
  obtain ⟨selections, hs⟩ := h name hn
  rw [hs]
  rfl

end Source

namespace Artifact

theorem generate_of_answers {source : Source} {names : List Text} {errors : List ErrorEntry}
    {schemas : Text → List Selection} (h : source.Answers names errors schemas) :
    generate source = .ok
      (ofBlocks source.origin errors (names.map (fun name => block name (schemas name)))) := by
  have hblocks : names.mapM (blockOf source) =
      .ok (names.map (fun name => block name (schemas name))) := by
    rw [Attempt.mapM_eq_ok_iff, List.forall₂_map_right_iff, List.forall₂_same]
    exact fun name hn => blockOf_eq_ok_iff.2 ⟨schemas name, h.schemas name hn, rfl⟩
  rw [generate_eq]
  refine Attempt.bind_eq_ok_iff.2 ⟨names, h.sections, Attempt.bind_eq_ok_iff.2 ⟨errors, h.errors, ?_⟩⟩
  exact Attempt.bind_eq_ok_iff.2 ⟨_, hblocks, rfl⟩

theorem exists_answers_of_generate {source : Source} {r : Reported Text}
    (h : generate source = .ok r) : ∃ names errors schemas, source.Answers names errors schemas := by
  rw [generate_eq, Attempt.bind_eq_ok_iff] at h
  obtain ⟨names, hnames, h⟩ := h
  obtain ⟨errors, herrors, h⟩ := Attempt.bind_eq_ok_iff.1 h
  obtain ⟨blocks, hblocks, -⟩ := Attempt.bind_eq_ok_iff.1 h
  rw [Attempt.mapM_eq_ok_iff] at hblocks
  refine ⟨names, errors, Source.exists_answers hnames herrors (fun name hn => ?_)⟩
  obtain ⟨i, hi, rfl⟩ := List.getElem_of_mem hn
  obtain ⟨selections, hs, -⟩ := blockOf_eq_ok_iff.1 (hblocks.get hi (hblocks.length_eq ▸ hi))
  exact ⟨selections, hs⟩

/-- **A run fails just as its first failing request does.** -/
theorem generate_eq_error_iff {source : Source} {f : Failure} :
    generate source = .error f ↔ source.Fails f := by
  simp only [generate_eq, Attempt.bind_eq_error_iff, Attempt.pure_ne_error, and_false, exists_const,
    or_false, Attempt.mapM_eq_error_iff, blockOf_eq_error_iff, blockOf_eq_ok_iff]
  constructor
  · rintro (h | ⟨names, hnames, h | ⟨errors, herrors, before, name, after, rfl, hbefore, h⟩⟩)
    · exact .sections h
    · exact .errors hnames h
    · refine .schema hnames herrors (fun n hn => ?_) h
      obtain ⟨_, selections, hs, -⟩ := hbefore n hn
      exact ⟨selections, hs⟩
  · rintro (h | ⟨hnames, h⟩ | ⟨hnames, herrors, hbefore, h⟩)
    · exact Or.inl h
    · exact Or.inr ⟨_, hnames, Or.inl h⟩
    · refine Or.inr ⟨_, hnames, Or.inr ⟨_, herrors, _, _, _, rfl, fun n hn => ?_, h⟩⟩
      obtain ⟨selections, hs⟩ := hbefore n hn
      exact ⟨block n selections, selections, hs, rfl⟩

/-- **Sections do not touch each other.**  A run succeeds just if its source answers every request;
else it fails as the first failing request does.  If it succeeds, the artifact is the header, the
banner and the text of each listed section in order, and the error codes, and what is reported on
the sections stands in their order.  Two runs that get the same schema for a section have the same
block for it, whatever else they list; and sections listed in another order have their blocks in that
order. -/
theorem generate_sectionwise (source : Source) :
    ((∃ r, generate source = .ok r) ↔
      ∃ names errors, source.sections = .ok names ∧ source.errors = .ok errors ∧
        ∀ name ∈ names, ∃ selections, source.schema name = .ok selections) ∧
    (∀ f, generate source = .error f ↔ source.Fails f) ∧
    ∀ names errors schemas, source.Answers names errors schemas →
      generate source = .ok
        ⟨Text.joinLines (header source.origin ++
            names.map (fun name => "// ===== " ++ name.upper ++ " SECTION =====\n\n" ++
              (sectionText name (schemas name)).value) ++
            footer errors),
          names.flatMap (fun name => (sectionText name (schemas name)).diagnostics)⟩ ∧
      (∀ (other : Source) names' errors' schemas', other.Answers names' errors' schemas' →
        ∀ name ∈ names, name ∈ names' → source.schema name = other.schema name →
          block name (schemas name) = block name (schemas' name)) ∧
      ∀ names', names'.Perm names →
        generate { source with sections := .ok names' } = .ok
          (ofBlocks source.origin errors (names'.map (fun name => block name (schemas name)))) ∧
        (names'.map (fun name => block name (schemas name))).Perm
          (names.map (fun name => block name (schemas name))) := by
  refine ⟨⟨?_, ?_⟩, fun f => generate_eq_error_iff, fun names errors schemas h => ⟨?_, ?_, ?_⟩⟩
  · rintro ⟨r, hr⟩
    obtain ⟨names, errors, schemas, h⟩ := exists_answers_of_generate hr
    exact ⟨names, errors, h.sections, h.errors, fun name hn => ⟨schemas name, h.schemas name hn⟩⟩
  · rintro ⟨names, errors, hnames, herrors, h⟩
    obtain ⟨schemas, h⟩ := Source.exists_answers hnames herrors h
    exact ⟨_, generate_of_answers h⟩
  · rw [generate_of_answers h, ofBlocks, List.map_map, List.flatMap_map]
    rfl
  · intro other names' errors' schemas' h' name hn hn' hschema
    rw [h.schemas name hn, h'.schemas name hn'] at hschema
    rw [Except.ok.inj hschema]
  · intro names' hperm
    refine ⟨?_, hperm.map _⟩
    have hanswers : Source.Answers { source with sections := .ok names' } names' errors schemas :=
      ⟨rfl, h.errors, fun name hn => h.schemas name (hperm.mem_iff.1 hn)⟩
    exact generate_of_answers hanswers

/-- Two sections that use one display name for different shapes. -/
def barSchemas (name : Text) : List Selection :=
  if name = "user" then
    [⟨"bars", [], [], [("energy", .reference .plain "bar" .object)],
      [⟨"bar", "Bar", none, none, some [("now", .primitive .plain "integer")]⟩]⟩]
  else [⟨"items", [], [], [], [⟨"bar", "Bar", none, none, some [("name", .primitive .plain "blob")]⟩]⟩]

def barSource : Source :=
  ⟨.ok ["user", "torn"], .ok [⟨2, "Incorrect Key", []⟩], fun name => .ok (barSchemas name), "memory/"⟩

def swappedText : Text :=
  "// Auto-generated TypeScript types for Torn API V1\n// Generated from: memory/\n\n" ++
    ("// ===== TORN SECTION =====\n\n" ++
      "export interface TornV1Bar \x7b\n    name: unknown;\n\x7d\n\n" ++
      "export interface TornV1ItemsResponse \x7b\n\x7d\n\n") ++
    ("// ===== USER SECTION =====\n\n" ++
      "export interface UserV1Bar \x7b\n    now: number;\n\x7d\n\n" ++
      "export interface UserV1BarsResponse \x7b\n    energy: UserV1Bar;\n\x7d\n\n") ++
    "\n// ===== ERROR CODES =====\n\nexport enum TornApiError \x7b\nINCORRECT_KEY = 2,\n\x7d"

theorem generate_sectionwise_swapped :
    barSource.Answers ["user", "torn"] [⟨2, "Incorrect Key", []⟩] barSchemas ∧
    List.Perm ["torn".toList, "user"] ["user", "torn"] ∧
    generate { barSource with sections := .ok ["torn", "user"] } = .ok
      (ofBlocks "memory/" [⟨2, "Incorrect Key", []⟩]
        [block "torn" (barSchemas "torn"), block "user" (barSchemas "user")]) ∧
    ∃ r, generate { barSource with sections := .ok ["torn", "user"] } = .ok r ∧
      r.value = swappedText ∧ r.diagnostics = [.warning "W001" "Unknown type: blob"] := by
  have hanswers : barSource.Answers ["user", "torn"] [⟨2, "Incorrect Key", []⟩] barSchemas :=
    ⟨rfl, rfl, fun _ _ => rfl⟩
  have hperm : List.Perm ["torn".toList, "user"] ["user", "torn"] := List.Perm.swap _ _ _
  have hswapped := (((generate_sectionwise barSource).2.2 _ _ _ hanswers).2.2 _ hperm).1
  refine ⟨hanswers, hperm, hswapped, _, hswapped, ?_, ?_⟩
  · simp only [ofBlocks, List.map_cons, List.map_nil, value_block, value_sectionText]
    decide +kernel
  · simp only [ofBlocks, List.map_cons, List.map_nil, List.flatMap_cons, List.flatMap_nil,
      diagnostics_block, diagnostics_sectionText_items]
    decide +kernel

end Artifact
end ApiTypes
