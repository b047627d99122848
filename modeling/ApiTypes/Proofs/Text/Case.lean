import ApiTypes.Proofs.Text.Lines
/-!
# What the case mappings do not lead to

A character is mapped to itself or to code points that stand in the tables.  So a set of code points
that the tables do not map to is not entered by changing the case of a character outside it
(`unreached_of_avoids`), and whether the tables keep off a set is a question about ranges.
-/
namespace ApiTypes

def within (ranges : List (Nat × Nat)) (n : Nat) : Bool :=
  ranges.any (fun r => r.1 ≤ n && n ≤ r.2)

/-- Whether tables map to no code point in some ranges.  A run leads to a stretch as long as
itself. -/
def avoids (ranges : List (Nat × Nat)) (expansions : List (Nat × List Nat))
    (runs : List CaseRun) : Bool :=
  ranges.all (fun g =>
    expansions.all (fun e => e.2.all (fun n => n < g.1 || g.2 < n)) &&
      runs.all (fun r => r.target + (r.last - r.first) < g.1 || g.2 < r.target))

theorem within_eq_false_iff {ranges : List (Nat × Nat)} {n : Nat} :
    within ranges n = false ↔ ∀ g ∈ ranges, n < g.1 ∨ g.2 < n := by
  simp only [within, List.any_eq_false, Bool.and_eq_true, decide_eq_true_eq, not_and_or, Nat.not_le]

theorem within_toNat_ofNat {ranges : List (Nat × Nat)} {n : Nat} (hzero : within ranges 0 = false)
    (h : within ranges n = false) : within ranges (Char.ofNat n).toNat = false := by
  by_cases hv : n.isValidChar
  · rw [Char.ofNat, dif_pos hv]
    exact h
  · rw [Char.ofNat, dif_neg hv]
    exact hzero

theorem within_of_mem_mapCase {ranges : List (Nat × Nat)} {expansions : List (Nat × List Nat)}
    {runs : List CaseRun} {c d : Char} (ht : avoids ranges expansions runs = true)
    (hzero : within ranges 0 = false) (hc : within ranges c.toNat = false)
    (hd : d ∈ mapCase expansions runs c) : within ranges d.toNat = false := by
  simp only [avoids, Bool.and_eq_true, List.all_eq_true, Bool.or_eq_true, decide_eq_true_eq] at ht
  rcases mem_mapCase hd with rfl | ⟨e, he, n, hn, rfl⟩ | ⟨r, hr, n, hcovers, rfl⟩
  · exact hc
  · exact within_toNat_ofNat hzero (within_eq_false_iff.2 (fun g hg => (ht g hg).1 e he n hn))
  · refine within_toNat_ofNat hzero (within_eq_false_iff.2 (fun g hg => ?_))
    have hstretch := (ht g hg).2 r hr
    simp only [CaseRun.covers, Bool.and_eq_true, decide_eq_true_eq] at hcovers
    rw [CaseRun.send]
    omega

/-- No change of case leads from outside some ranges into one of them. -/
structure Unreached (ranges : List (Nat × Nat)) : Prop where
  upper : ∀ c : Char, within ranges c.toNat = false →
    ∀ d ∈ upperChar c, within ranges d.toNat = false
  lower : ∀ c : Char, within ranges c.toNat = false →
    ∀ d ∈ lowerChar c, within ranges d.toNat = false

/-- **Ranges that the tables keep off are not reached**, if within ASCII they are not either. -/
theorem unreached_of_avoids {ranges : List (Nat × Nat)} (hzero : within ranges 0 = false)
    (hascii : ∀ n < 128, within ranges (Char.ofNat n).toNat = false →
      within ranges (Char.ofNat n).toUpper.toNat = false ∧
        within ranges (Char.ofNat n).toLower.toNat = false)
    (hupper : avoids ranges upperExpansions upperRuns = true)
    (hlower : avoids ranges lowerExpansions lowerRuns = true) : Unreached ranges := by
  have hsimple : ∀ {c : Char}, c.toNat < 128 → within ranges c.toNat = false →
      within ranges c.toUpper.toNat = false ∧ within ranges c.toLower.toNat = false :=
    forall_ascii (P := fun c => within ranges c.toNat = false →
      within ranges c.toUpper.toNat = false ∧ within ranges c.toLower.toNat = false) hascii
  constructor
  · intro c hc d hd
    unfold upperChar at hd
    split at hd
    · rename_i hlt
      rw [List.mem_singleton.1 hd]
      exact (hsimple hlt hc).1
    · exact within_of_mem_mapCase hupper hzero hc hd
  · intro c hc d hd
    unfold lowerChar at hd
    split at hd
    · rename_i hlt
      rw [List.mem_singleton.1 hd]
      exact (hsimple hlt hc).2
    · exact within_of_mem_mapCase hlower hzero hc hd

/-! ## Small letters of ASCII -/

theorem isLower_eq_within (c : Char) : c.isLower = within [(0x61, 0x7A)] c.toNat := by
  change (decide ('a'.val ≤ c.val) && decide (c.val ≤ 'z'.val)) = _
  rw [Bool.eq_iff_iff]
  simp [within, UInt32.le_iff_toNat_le]

theorem isLower_of_mem_upperChar {c d : Char} (hd : d ∈ upperChar c) : d.isLower = false := by
  by_cases hc : c.toNat < 128
  · rw [upperChar, if_pos hc, List.mem_singleton] at hd
    rw [hd]
    exact forall_ascii (P := fun c => c.toUpper.isLower = false) (by decide) hc
  · have hbeyond : within [(0x61, 0x7A)] c.toNat = false := by
      rw [within_eq_false_iff]
      intro g hg
      rw [List.mem_singleton.1 hg]
      omega
    rw [upperChar, if_neg hc] at hd
    rw [isLower_eq_within]
    exact within_of_mem_mapCase (by decide +kernel) (by decide) hbeyond hd

theorem isAlpha_of_isUpper_toUpper {c : Char} (h : c.toUpper.isUpper = true) : c.isAlpha = true := by
  unfold Char.toUpper at h
  split at h
  · rename_i hlower
    have hlower : c.isLower = true :=
      Bool.and_eq_true_iff.2 ⟨decide_eq_true hlower.1, decide_eq_true hlower.2⟩
    exact Bool.or_eq_true_iff.2 (Or.inr hlower)
  · exact Bool.or_eq_true_iff.2 (Or.inl h)

/-! ## Words with a capital in front -/

theorem Unreached.titleCase {ranges : List (Nat × Nat)} (h : Unreached ranges) : ∀ {t : Text},
    (∀ c ∈ t, within ranges c.toNat = false) → ∀ d ∈ t.titleCase, within ranges d.toNat = false
  | [], _, d, hd => by cases hd
  | c :: rest, ht, d, hd => by
    rcases List.mem_append.1 hd with hd | hd
    · exact h.upper c (ht c List.mem_cons_self) d hd
    · obtain ⟨e, he, hd⟩ := List.mem_flatMap.1 hd
      exact h.lower e (ht e (List.mem_cons_of_mem c he)) d hd

end ApiTypes
