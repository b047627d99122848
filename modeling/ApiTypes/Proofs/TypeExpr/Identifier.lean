import ApiTypes.Proofs.Text.Lines
import ApiTypes.Proofs.TypeExpr.Token
/-!
# Identifiers

Which characters beyond ASCII an identifier may hold is a table of the language that the declarations
are written in.  It is left open: an `IdentifierRule` is settled within ASCII, and what is said of
every rule holds whatever the table says.
-/
namespace ApiTypes

/-- Which characters an identifier starts with, and which it goes on with. -/
structure IdentifierRule where
  starts : Char → Bool
  goesOn : Char → Bool
  starts_ascii : ∀ c : Char, c.toNat < 128 → starts c = (c.isAlpha || c = '_' || c = '$')
  goesOn_ascii : ∀ c : Char, c.toNat < 128 → goesOn c = isNameChar c
  goesOn_of_starts : ∀ c : Char, starts c = true → goesOn c = true
  isBlank_of_goesOn : ∀ c : Char, goesOn c = true → isBlank c = false

theorem isBlank_of_isNameChar {c : Char} (h : isNameChar c = true) : isBlank c = false := by
  have hascii : c.toNat < 128 := by
    simp only [isNameChar, Bool.or_eq_true, decide_eq_true_eq] at h
    rcases h with (h | rfl) | rfl
    · exact toNat_lt_of_isAlphanum h
    · decide
    · decide
  exact forall_ascii (P := fun c => isNameChar c = true → isBlank c = false) (by decide) hascii h

namespace IdentifierRule

def ascii : IdentifierRule where
  starts c := c.isAlpha || c = '_' || c = '$'
  goesOn := isNameChar
  starts_ascii _ _ := rfl
  goesOn_ascii _ _ := rfl
  goesOn_of_starts c h := by
    simp only [Bool.or_eq_true, decide_eq_true_eq] at h
    rcases h with (h | rfl) | rfl
    · rw [isNameChar, Char.isAlphanum, h]
      rfl
    · decide
    · decide
  isBlank_of_goesOn _ h := isBlank_of_isNameChar h

def accepts (R : IdentifierRule) : Text → Bool
  | [] => false
  | c :: rest => R.starts c && rest.all R.goesOn

variable {R : IdentifierRule} {a b n : Text}

theorem accepts_cons {c : Char} : R.accepts (c :: n) = true ↔
    R.starts c = true ∧ ∀ d ∈ n, R.goesOn d = true := by
  rw [accepts, Bool.and_eq_true, List.all_eq_true]

theorem goesOn_of_accepts (h : R.accepts n = true) : ∀ c ∈ n, R.goesOn c = true := by
  match n, h with
  | c :: rest, h =>
    obtain ⟨hc, hrest⟩ := accepts_cons.1 h
    exact List.forall_mem_cons.2 ⟨R.goesOn_of_starts c hc, hrest⟩

/-- **What stands behind an identifier decides whether it goes on.** -/
theorem accepts_append_iff (ha : R.accepts a = true) :
    R.accepts (a ++ b) = true ↔ ∀ c ∈ b, R.goesOn c = true := by
  match a, ha with
  | c :: rest, ha =>
    obtain ⟨hc, hrest⟩ := accepts_cons.1 ha
    rw [List.cons_append, accepts_cons, List.forall_mem_append, and_iff_right hc,
      and_iff_right hrest]

theorem accepts_eq_isName : ∀ {n : Text}, n.isAscii = true → R.accepts n = isName n
  | [], _ => rfl
  | c :: rest, h => by
    obtain ⟨hc, hrest⟩ := List.forall_mem_cons.1 (toNat_lt_of_isAscii h)
    have hstarts : R.starts c = (isNameChar c && !c.isDigit) := by
      rw [R.starts_ascii c hc]
      exact forall_ascii (P := fun c =>
        (c.isAlpha || c = '_' || c = '$') = (isNameChar c && !c.isDigit)) (by decide) hc
    have hgoesOn : rest.all R.goesOn = rest.all isNameChar := by
      rw [Bool.eq_iff_iff, List.all_eq_true, List.all_eq_true]
      exact forall₂_congr (fun d hd => by rw [R.goesOn_ascii d (hrest d hd)])
    rw [accepts, hstarts, hgoesOn, isName, startsWithDigit, List.all_cons]
    simp only [List.isEmpty_cons, Bool.not_false, Bool.true_and, List.head?_cons, Option.map_some,
      Option.getD_some]
    rw [Bool.and_right_comm]

/-- **An identifier is not quoted as a key.** -/
theorem needsQuotes_of_accepts (h : R.accepts n = true) : TypeExpr.needsQuotes n = false := by
  have hgoesOn := goesOn_of_accepts h
  match n, h with
  | c :: rest, h =>
    have hstarts := (accepts_cons.1 h).1
    have hdigit : c.isDigit = false := by
      by_contra hdigit
      rw [Bool.not_eq_false] at hdigit
      have hascii : c.toNat < 128 :=
        toNat_lt_of_isAlphanum (by rw [Char.isAlphanum, hdigit, Bool.or_true])
      rw [R.starts_ascii c hascii] at hstarts
      exact absurd hstarts (forall_ascii (P := fun c => c.isDigit = true →
        ¬ (c.isAlpha || c = '_' || c = '$') = true) (by decide) hascii hdigit)
    have hany : (c :: rest).any (fun c => isBlank c || c = '-') = false := by
      rw [List.any_eq_false]
      intro d hd
      have hd := hgoesOn d hd
      have hhyphen : d ≠ '-' := by
        rintro rfl
        rw [R.goesOn_ascii '-' (by decide)] at hd
        exact absurd hd (by decide)
      simp [R.isBlank_of_goesOn d hd, hhyphen]
    rw [TypeExpr.needsQuotes, hany, Bool.or_false]
    exact hdigit

end IdentifierRule
end ApiTypes
