import ApiTypes.Proofs.Naming.Words
import ApiTypes.Proofs.Text.Words
/-!
# The gaps in a display name

A display name is words with gaps between them.  What a name becomes depends on its words alone: a
gap cuts it in two, each side by itself, and how a gap is filled, or where characters that are left
out stand, changes nothing.  No change of case leads to the characters of gaps, so none is in the
result (`sanitize_across_gaps`).
-/
namespace ApiTypes

namespace Naming

/-- Characters that are in no word of a display name: separators, and those that are left out. -/
def isGap (c : Char) : Bool := isSeparator c || isDropped c

/-- A display name with characters that are left out put in, any number of them at any places. -/
inductive Padded : Text → Text → Prop
  | nil : Padded [] []
  | keep (c : Char) {name padded : Text} : Padded name padded → Padded (c :: name) (c :: padded)
  | put {c : Char} {name padded : Text} : isDropped c = true → Padded name padded →
      Padded name (c :: padded)

theorem Padded.refl : ∀ name : Text, Padded name name
  | [] => .nil
  | c :: rest => .keep c (refl rest)

theorem Padded.filter_eq {name padded : Text} (h : Padded name padded) :
    padded.filter (fun c => !isDropped c) = name.filter (fun c => !isDropped c) := by
  induction h with
  | nil => rfl
  | keep c _ ih => rw [List.filter_cons, List.filter_cons, ih]
  | put hc _ ih => rw [List.filter_cons_of_neg (by simp [hc]), ih]

theorem Padded.sanitize_eq {name padded : Text} (h : Padded name padded) :
    sanitize padded = sanitize name := by
  rw [sanitize, sanitize, parts, parts, h.filter_eq]

/-- **A gap cuts a display name in two**, if one of its characters is not left out. -/
theorem parts_across_gap {s : Text} (hs : ∀ c ∈ s, isGap c = true)
    (hkept : ∃ c ∈ s, isDropped c = false) (a b : Text) :
    parts (a ++ s ++ b) = parts a ++ parts b := by
  have hne : s.filter (fun c => !isDropped c) ≠ [] := by
    obtain ⟨c, hc, hdropped⟩ := hkept
    exact List.ne_nil_of_mem (List.mem_filter.2 ⟨hc, by simp [hdropped]⟩)
  have hsep : ∀ c ∈ s.filter (fun c => !isDropped c), isSeparator c = true := by
    intro c hc
    obtain ⟨hmem, hdropped⟩ := List.mem_filter.1 hc
    have hgap := hs c hmem
    rw [Bool.not_eq_true'] at hdropped
    rwa [isGap, hdropped, Bool.or_false] at hgap
  rw [parts, List.filter_append, List.filter_append, Text.tokens_across_gap hne hsep]
  rfl

theorem mem_parts_iff {name : Text} {c : Char} :
    (∃ p ∈ parts name, c ∈ p) ↔ c ∈ name ∧ isGap c = false := by
  have hflat : (parts name).flatten = name.filter (fun c => !isGap c) := by
    rw [parts, Text.flatten_tokens, List.filter_filter]
    simp only [isGap, Bool.not_or]
  rw [← List.mem_flatten, hflat, List.mem_filter, Bool.not_eq_true']

/-! ## Changes of case -/

def gapRanges : List (Nat × Nat) := (0x26, 0x26) :: (0x2C, 0x2D) :: (0x5F, 0x5F) :: blankRanges

theorem isGap_eq_within (c : Char) : isGap c = within gapRanges c.toNat := by
  by_cases hc : c.toNat < 128
  · exact forall_ascii (P := fun c => isGap c = within gapRanges c.toNat) (by decide +kernel) hc
  · -- beyond ASCII only white space is in a gap
    have hne : ∀ d : Char, d.toNat < 128 → decide (c = d) = false := fun d hd =>
      decide_eq_false (fun e => hc (e ▸ hd))
    have hout : ∀ g : Nat × Nat, g.2 < 128 → (g.1 ≤ c.toNat && c.toNat ≤ g.2) = false := by
      intro g hg
      rw [Bool.and_eq_false_iff, decide_eq_false_iff_not, decide_eq_false_iff_not]
      omega
    rw [isGap, isSeparator, isDropped, hne _ (by decide), hne _ (by decide), hne _ (by decide),
      hne _ (by decide), within, gapRanges, List.any_cons, List.any_cons, List.any_cons,
      hout _ (by decide), hout _ (by decide), hout _ (by decide)]
    simp only [Bool.or_false, Bool.false_or]
    rfl

/-- **No change of case leads to a character of a gap.** -/
theorem unreached_gapRanges : Unreached gapRanges :=
  unreached_of_avoids (by decide) (by decide +kernel) (by decide +kernel) (by decide +kernel)

theorem isGap_of_mem_sanitize {name : Text} : ∀ d ∈ sanitize name, isGap d = false := by
  intro d hd
  obtain ⟨p, hp, hd⟩ := List.mem_flatMap.1 hd
  have hword : ∀ c ∈ p, within gapRanges c.toNat = false := by
    intro c hc
    rw [← isGap_eq_within]
    exact (mem_parts_iff.1 ⟨p, hp, hc⟩).2
  rw [isGap_eq_within]
  exact unreached_gapRanges.titleCase hword d hd

/-- **What a display name becomes is put together from its words.**  A gap cuts the name in two, each
side by itself; characters that are left out change nothing, wherever they stand; and no character of
a gap is in the result, whatever the case mappings make of a word. -/
theorem sanitize_across_gaps :
    (∀ a s b : Text, (∀ c ∈ s, isGap c = true) → (∃ c ∈ s, isDropped c = false) →
      sanitize (a ++ s ++ b) = sanitize a ++ sanitize b) ∧
    (∀ name padded : Text, Padded name padded → sanitize padded = sanitize name) ∧
    ∀ name : Text, ∀ d ∈ sanitize name, isGap d = false := by
  refine ⟨fun a s b hs hkept => ?_, fun _ _ h => h.sanitize_eq, fun _ => isGap_of_mem_sanitize⟩
  rw [sanitize, parts_across_gap hs hkept, List.flatMap_append]
  rfl

/-- A name with a ligature that becomes two letters, and a letter that becomes a mark and a
letter. -/
def ligatureName : Text := "ﬁre_& ŉotes"

theorem sanitize_across_gaps_ligature :
    sanitize ("GUNS".toList ++ ",-\u3000&".toList ++ ligatureName) =
      "Guns".toList ++ "FIreʼNotes".toList ∧
    sanitize "ﬁ,re_& ŉotes" = "FIreʼNotes" ∧
    ∀ d ∈ sanitize ligatureName, isGap d = false := by
  obtain ⟨hgap, hpadded, hfree⟩ := sanitize_across_gaps
  have hname : sanitize ligatureName = "FIreʼNotes" := by decide +kernel
  have hput : Padded ligatureName "ﬁ,re_& ŉotes" := .keep 'ﬁ' (.put rfl (.refl "re_& ŉotes"))
  have hcut := hgap "GUNS" ",-\u3000&" ligatureName (List.all_eq_true.1 (by decide))
    ⟨'-', by decide, rfl⟩
  have hinserted := hpadded _ _ hput
  rw [hname] at hcut hinserted
  exact ⟨hcut, hinserted, hfree ligatureName⟩

end Naming
end ApiTypes
