import ApiTypes.Text
/-!
# Reading decimal numerals

A numeral is a row of digits, with a minus sign in front or without one; zeros in front do no harm.
The numerals that are written are read back (`toInt?_ofInt`).
-/
namespace ApiTypes
namespace Text

theorem isDigit_of_mem_ofNat {n : Nat} : ∀ c ∈ ofNat n, c.isDigit = true :=
  fun _ hc => Nat.isDigit_of_mem_toDigits (by decide) (by decide) hc

theorem ofNat_eq_cons (n : Nat) : ∃ c ds, ofNat n = c :: ds ∧ c.isDigit = true := by
  obtain ⟨c, ds, hds⟩ := List.exists_cons_of_ne_nil (Nat.toDigits_ne_nil (n := n) (b := 10))
  exact ⟨c, ds, hds, isDigit_of_mem_ofNat c (hds ▸ List.mem_cons_self)⟩

def toNat? (t : Text) : Option Nat :=
  if !t.isEmpty && t.all Char.isDigit then some (Nat.ofDigitChars 10 t 0) else none

def toInt? (t : Text) : Option Int :=
  match t with
  | '-' :: digits => (toNat? digits).map (fun n => -Int.ofNat n)
  | _ => (toNat? t).map Int.ofNat

theorem toNat?_ofNat (n : Nat) : toNat? (ofNat n) = some n := by
  obtain ⟨c, ds, hds, -⟩ := ofNat_eq_cons n
  have hdigits : (!(ofNat n).isEmpty && (ofNat n).all Char.isDigit) = true := by
    rw [Bool.and_eq_true, List.all_eq_true]
    exact ⟨by rw [hds]; rfl, isDigit_of_mem_ofNat⟩
  rw [toNat?, if_pos hdigits, ofNat, Nat.ofDigitChars_ten_toDigits]

/-- **A numeral that was written is read back.** -/
theorem toInt?_ofInt (n : Int) : toInt? (ofInt n) = some n := by
  cases n with
  | ofNat n =>
    have hminus : ∀ digits, ofNat n = '-' :: digits → False := by
      intro digits h
      obtain ⟨c, ds, hds, hc⟩ := ofNat_eq_cons n
      rw [hds] at h
      cases h
      cases hc
    rw [ofInt, toInt?, toNat?_ofNat]
    · rfl
    · exact hminus
  | negSucc n =>
    rw [ofInt, toInt?, toNat?_ofNat]
    rfl

theorem isDigit_of_toNat? {t : Text} {n : Nat} (h : toNat? t = some n) :
    ∀ c ∈ t, c.isDigit = true := by
  unfold toNat? at h
  split at h
  · rename_i hdigits
    exact List.all_eq_true.1 (Bool.and_eq_true_iff.1 hdigits).2
  · cases h

theorem of_toInt? {t : Text} {n : Int} (h : toInt? t = some n) :
    ∀ c ∈ t, c = '-' ∨ c.isDigit = true := by
  unfold toInt? at h
  split at h
  · obtain ⟨m, hm, -⟩ := Option.map_eq_some_iff.1 h
    exact List.forall_mem_cons.2 ⟨Or.inl rfl, fun c hc => Or.inr (isDigit_of_toNat? hm c hc)⟩
  · obtain ⟨m, hm, -⟩ := Option.map_eq_some_iff.1 h
    exact fun c hc => Or.inr (isDigit_of_toNat? hm c hc)

end Text
end ApiTypes
