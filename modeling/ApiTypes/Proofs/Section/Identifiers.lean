import ApiTypes.Proofs.Naming.Gaps
import ApiTypes.Proofs.Section.References
import ApiTypes.Proofs.TypeExpr.Identifier
/-!
# Type names as identifiers

Behind the prefix of a section, if that is made of letters, a type name goes on as an identifier just
as long as the word does that the display name becomes.  Only the gaps of a display name are taken
out, so a character that no identifier holds stays in the word and spoils it
(`typeNames_identifiers`).
-/
namespace ApiTypes

open Naming (structureName responseName sectionPrefix sanitize isGap)

namespace IdentifierRule

variable {R : IdentifierRule}

theorem starts_of_isAlpha {c : Char} (h : c.isAlpha = true) : R.starts c = true := by
  rw [R.starts_ascii c (toNat_lt_of_isAlpha h), h, Bool.true_or, Bool.true_or]

/-! ## Display names -/

/-- What a display name becomes can stand in an identifier, behind its first character. -/
def Fits (R : IdentifierRule) (name : Text) : Prop := ∀ c ∈ sanitize name, R.goesOn c = true

/-- The two cases of a character are in identifiers just if the character is. -/
structure Folds (R : IdentifierRule) (c : Char) : Prop where
  upper : (∀ d ∈ upperChar c, R.goesOn d = true) ↔ R.goesOn c = true
  lower : (∀ d ∈ lowerChar c, R.goesOn d = true) ↔ R.goesOn c = true

theorem folds_of_ascii {c : Char} (hc : c.toNat < 128) : R.Folds c := by
  have hcases : (c.toUpper.toNat < 128 ∧ isNameChar c.toUpper = isNameChar c) ∧
      c.toLower.toNat < 128 ∧ isNameChar c.toLower = isNameChar c :=
    forall_ascii (P := fun c => (c.toUpper.toNat < 128 ∧ isNameChar c.toUpper = isNameChar c) ∧
      c.toLower.toNat < 128 ∧ isNameChar c.toLower = isNameChar c) (by decide) hc
  obtain ⟨⟨hupper, hupperName⟩, hlower, hlowerName⟩ := hcases
  constructor
  · rw [upperChar, if_pos hc, List.forall_mem_singleton, R.goesOn_ascii _ hupper, hupperName,
      R.goesOn_ascii c hc]
  · rw [lowerChar, if_pos hc, List.forall_mem_singleton, R.goesOn_ascii _ hlower, hlowerName,
      R.goesOn_ascii c hc]

theorem forall_mem_titleCase_iff : ∀ {t : Text}, (∀ c ∈ t, R.Folds c) →
    ((∀ d ∈ t.titleCase, R.goesOn d = true) ↔ ∀ c ∈ t, R.goesOn c = true)
  | [], _ => Iff.rfl
  | c :: rest, h => by
    obtain ⟨hc, hrest⟩ := List.forall_mem_cons.1 h
    have hlower : (∀ d ∈ Text.lower rest, R.goesOn d = true) ↔ ∀ c ∈ rest, R.goesOn c = true := by
      rw [Text.lower, List.forall_mem_flatMap]
      exact forall₂_congr (fun d hd => (hrest d hd).lower)
    rw [Text.titleCase, List.forall_mem_append, hc.upper, hlower, List.forall_mem_cons]

/-- **A display name fits just if its characters do**, those of gaps apart, as long as changing case
leads neither into identifiers nor out of them. -/
theorem fits_iff {name : Text} (h : ∀ c ∈ name, R.Folds c) :
    R.Fits name ↔ ∀ c ∈ name, isGap c = true ∨ R.goesOn c = true := by
  have hparts : R.Fits name ↔ ∀ p ∈ Naming.parts name, ∀ c ∈ p, R.goesOn c = true := by
    rw [Fits, sanitize, List.forall_mem_flatMap]
    refine forall₂_congr (fun p hp => forall_mem_titleCase_iff (fun c hc => ?_))
    exact h c (Naming.mem_parts_iff.1 ⟨p, hp, hc⟩).1
  rw [hparts]
  constructor
  · intro hword c hc
    cases hgap : isGap c with
    | true => exact Or.inl rfl
    | false =>
      obtain ⟨p, hp, hcp⟩ := Naming.mem_parts_iff.2 ⟨hc, hgap⟩
      exact Or.inr (hword p hp c hcp)
  · intro hname p hp c hc
    obtain ⟨hmem, hgap⟩ := Naming.mem_parts_iff.1 ⟨p, hp, hc⟩
    exact (hname c hmem).resolve_left (by simp [hgap])

/-! ## Type names -/

theorem isAlpha_of_mem_sectionPrefix {name : Text} (h : ∀ c ∈ name, c.isAlpha = true) :
    ∀ c ∈ sectionPrefix name, c.isAlpha = true := by
  cases name with
  | nil => exact h
  | cons c rest =>
    obtain ⟨hc, hrest⟩ := List.forall_mem_cons.1 h
    have hascii : c.toNat < 128 := toNat_lt_of_isAlpha hc
    have hupper : c.toUpper.isAlpha = true :=
      forall_ascii (P := fun c => c.isAlpha = true → c.toUpper.isAlpha = true) (by decide) hascii hc
    rw [sectionPrefix, Text.capitalize, upperChar, if_pos hascii]
    exact List.forall_mem_cons.2 ⟨hupper, hrest⟩

theorem accepts_mark {stem : Text} (h : ∀ c ∈ stem, c.isAlpha = true) :
    R.accepts (stem ++ "V1") = true := by
  have hmark : R.accepts "V1" = true := by
    rw [accepts_eq_isName (by decide)]
    decide
  cases stem with
  | nil => exact hmark
  | cons c rest =>
    obtain ⟨hc, hrest⟩ := List.forall_mem_cons.1 h
    rw [List.cons_append, accepts_cons, List.forall_mem_append]
    exact ⟨starts_of_isAlpha hc, fun d hd => R.goesOn_of_starts d (starts_of_isAlpha (hrest d hd)),
      goesOn_of_accepts hmark⟩

theorem accepts_structureName_iff {stem : Text} (h : ∀ c ∈ stem, c.isAlpha = true)
    (s : Structure) : R.accepts (structureName stem s) = true ↔ R.Fits s.name :=
  accepts_append_iff (accepts_mark h)

theorem accepts_responseName_iff {stem : Text} (h : ∀ c ∈ stem, c.isAlpha = true)
    (t : Selection) : R.accepts (responseName stem t) = true ↔ R.Fits t.name := by
  have hresponse : R.accepts "Response" = true := by
    rw [accepts_eq_isName (by decide)]
    decide
  rw [responseName, List.append_assoc (stem ++ "V1".toList), accepts_append_iff (accepts_mark h),
    List.forall_mem_append, and_iff_left (goesOn_of_accepts hresponse), Fits]

theorem accepts_of_mem_basicNames {n : Text} (h : n ∈ TypeExpr.basicNames) :
    R.accepts n = true := by
  have hnames : ∀ b ∈ TypeExpr.basicNames, b.isAscii = true ∧ isName b = true := by decide
  rw [accepts_eq_isName (hnames n h).1]
  exact (hnames n h).2

end IdentifierRule

/-- **When type names are identifiers.**  In a section whose name is made of letters, the type name of a
structure or a response is an identifier just if the word fits that the display name becomes.  Within
ASCII the display names that fit are those of letters, digits, dollar signs and the characters of
gaps; beyond it the same holds of identifier characters and gaps, as long as changing case leads
neither into identifiers nor out of them.  If the display names of a section fit, every name that it
declares or mentions is an identifier. -/
theorem typeNames_identifiers (R : IdentifierRule) {name : Text}
    (hname : ∀ c ∈ name, c.isAlpha = true) :
    let stem := sectionPrefix name
    (∀ s : Structure, R.accepts (structureName stem s) = true ↔ R.Fits s.name) ∧
    (∀ t : Selection, R.accepts (responseName stem t) = true ↔ R.Fits t.name) ∧
    (∀ display : Text, display.isAscii = true →
      (R.Fits display ↔ ∀ c ∈ display, isGap c = true ∨ isNameChar c = true)) ∧
    (∀ display : Text, (∀ c ∈ display, R.Folds c) →
      (R.Fits display ↔ ∀ c ∈ display, isGap c = true ∨ R.goesOn c = true)) ∧
    ∀ selections : List Selection,
      (∀ t ∈ selections, R.Fits t.name ∧ ∀ s ∈ t.structures, R.Fits s.name) →
        ∀ d ∈ (sectionDeclarations name selections).value,
          R.accepts d.name = true ∧ ∀ n ∈ d.mentions, R.accepts n = true := by
  intro stem
  have hstem : ∀ c ∈ stem, c.isAlpha = true := IdentifierRule.isAlpha_of_mem_sectionPrefix hname
  refine ⟨IdentifierRule.accepts_structureName_iff hstem,
    IdentifierRule.accepts_responseName_iff hstem, fun display h => ?_,
    fun display => IdentifierRule.fits_iff, fun selections hfits d hd => ⟨?_, fun n hn => ?_⟩⟩
  · have hascii : ∀ c ∈ display, c.toNat < 128 := toNat_lt_of_isAscii h
    rw [IdentifierRule.fits_iff (fun c hc => IdentifierRule.folds_of_ascii (hascii c hc))]
    exact forall₂_congr (fun c hc => by rw [R.goesOn_ascii c (hascii c hc)])
  · rcases name_of_mem_sectionDeclarations hd with ⟨home, hhome, s, hs, hdname⟩ | ⟨t, ht, hdname⟩
    · rw [hdname]
      exact (IdentifierRule.accepts_structureName_iff hstem s).2 ((hfits home hhome).2 s hs)
    · rw [hdname]
      exact (IdentifierRule.accepts_responseName_iff hstem t).2 (hfits t ht).1
  · rcases accounts_sectionDeclarations name selections d hd n hn with hbasic | hreference
    · exact IdentifierRule.accepts_of_mem_basicNames hbasic
    · obtain ⟨home, hhome, r, -, s, hs, rfl⟩ := hreference
      exact (IdentifierRule.accepts_structureName_iff hstem s).2 ((hfits home hhome).2 s hs.mem_pool)

/-- **A type name need not be an identifier**: the parentheses of a display name stay in it. -/
theorem not_typeNames_identifiers :
    ¬ ∃ R : IdentifierRule, ∀ name : Text, (∀ c ∈ name, c.isAlpha = true) →
      (∀ s : Structure, R.accepts (structureName (sectionPrefix name) s) = true) ∧
      ∀ t : Selection, R.accepts (responseName (sectionPrefix name) t) = true := by
  rintro ⟨R, h⟩
  have haccepts :=
    (h "user" (List.all_eq_true.1 (by decide))).1 ⟨"1", "Jail (federal)", none, none, none⟩
  have htext : structureName (sectionPrefix "user") ⟨"1", "Jail (federal)", none, none, none⟩ =
      "UserV1Jail(federal)" := by decide
  rw [htext, IdentifierRule.accepts_eq_isName (by decide)] at haccepts
  exact absurd haccepts (by decide)

/-- A response with parentheses in its display name, and one that refers to a structure whose display
name starts with a digit and has a dollar sign in it. -/
def parenthesisSelections : List Selection :=
  [⟨"travel (flown)", [], [], [], []⟩,
    ⟨"2nd, $ & bills_log", [], [], [("a", .reference .plain "1" .object)],
      [⟨"1", "100$ bill", none, none, some []⟩]⟩]

theorem typeNames_identifiers_parenthesis :
    (∀ c ∈ ("user" : Text), c.isAlpha = true) ∧
    IdentifierRule.accepts .ascii (responseName (sectionPrefix "user")
      ⟨"travel (flown)", [], [], [], []⟩) = false ∧
    ∀ d ∈ (sectionDeclarations "user" parenthesisSelections.tail).value,
      IdentifierRule.accepts .ascii d.name = true ∧
        ∀ n ∈ d.mentions, IdentifierRule.accepts .ascii n = true := by
  have hname : ∀ c ∈ ("user" : Text), c.isAlpha = true := List.all_eq_true.1 (by decide)
  obtain ⟨-, hresponse, hascii, -, hsection⟩ := typeNames_identifiers .ascii hname
  have hfits : ∀ {display : Text}, display.isAscii = true →
      display.all (fun c => isGap c || isNameChar c) = true → IdentifierRule.ascii.Fits display :=
    fun h hchars => (hascii _ h).2 (fun c hc => Bool.or_eq_true_iff.1 (List.all_eq_true.1 hchars c hc))
  refine ⟨hname, Bool.eq_false_iff.2 (fun h => ?_), hsection _ (fun t ht => ?_)⟩
  · have hchars := (hascii "travel (flown)" (by decide)).1 ((hresponse _).1 h)
    exact absurd (hchars '(' (by decide)) (by decide)
  · rw [List.mem_singleton.1 ht]
    refine ⟨hfits (by decide) (by decide), fun s hs => ?_⟩
    rw [List.mem_singleton.1 hs]
    exact hfits (by decide) (by decide)

end ApiTypes
