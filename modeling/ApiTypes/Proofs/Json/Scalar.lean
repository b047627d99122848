import ApiTypes.Json.Parse
import ApiTypes.Json.Render
import ApiTypes.Proofs.Text.Numeral
/-!
# Strings and integers are read back

A string is read back from its escapes character by character (`readString_escapes`).  An integer of
64 bits is read back from its digits if what stands behind them cannot go on with the number
(`Ends`): they have no zero in front, and they fit the significand (`readScalar_ofInt`).
-/
namespace ApiTypes
namespace Json

/-! ## Strings -/

theorem hexValue?_digitChar : ∀ n < 16, hexValue? (Nat.digitChar n) = some n := by
  decide

theorem hasFourBytes_cons (a b c d : Char) (rest : Text) :
    hasFourBytes (a :: b :: c :: d :: rest) = true := by
  have ha := a.utf8Size_pos
  have hb := b.utf8Size_pos
  have hc := c.utf8Size_pos
  have hd := d.utf8Size_pos
  rw [hasFourBytes, decide_eq_true_iff]
  simp only [List.take_succ_cons, List.take_zero, Text.byteLength]
  omega

theorem readString_hex {n left value : Nat} (hn : n < 16) (hleft : 1 < left) (done rest : Text) :
    readString (.hex none left value) done (Nat.digitChar n :: rest) =
      readString (.hex none (left - 1) (value * 16 + n)) done rest := by
  rw [readString, hexValue?_digitChar n hn]
  exact if_pos hleft

theorem readString_hex_last {n value : Nat} (hn : n < 16) (hsmall : value * 16 + n < 0xD800)
    (done rest : Text) :
    readString (.hex none 1 value) done (Nat.digitChar n :: rest) =
      readString .plain (Char.ofNat (value * 16 + n) :: done) rest := by
  have htrailing : isTrailing (value * 16 + n) = false := by
    rw [isTrailing, Bool.and_eq_false_iff, decide_eq_false_iff_not]
    omega
  have hleading : isLeading (value * 16 + n) = false := by
    rw [isLeading, Bool.and_eq_false_iff, decide_eq_false_iff_not]
    omega
  rw [readString, hexValue?_digitChar n hn]
  simp only [htrailing, hleading, Nat.lt_irrefl, Bool.false_eq_true, if_false]

theorem readString_control {c : Char} (hc : c.toNat < 32) (done rest : Text) :
    readString .plain done ('\\' :: 'u' :: '0' :: '0' :: Nat.digitChar (c.toNat / 16) ::
      Nat.digitChar (c.toNat % 16) :: rest) = readString .plain (c :: done) rest := by
  have hzero : '0' = Nat.digitChar 0 := rfl
  have hvalue : (((0 * 16 + 0) * 16 + 0) * 16 + c.toNat / 16) * 16 + c.toNat % 16 = c.toNat := by
    omega
  rw [readString, if_neg (by decide), if_pos rfl, readString, if_pos rfl,
    if_pos (hasFourBytes_cons _ _ _ _ _), hzero, readString_hex (by omega) (by omega),
    readString_hex (by omega) (by omega), readString_hex (by omega) (by omega),
    readString_hex_last (by omega) (by omega), hvalue, Char.ofNat_toNat]

/-- **A character is read back from its escape.** -/
theorem readString_escapeChar (c : Char) (done rest : Text) :
    readString .plain done (escapeChar c ++ rest) = readString .plain (c :: done) rest := by
  unfold escapeChar
  split
  · rfl
  · rfl
  · rfl
  · rfl
  · rfl
  · rfl
  · rfl
  · rename_i hquote hbackslash _ _ _ _ _
    split
    · rename_i hc
      exact readString_control hc done rest
    · rename_i hc
      have hspace : ¬ c < ' ' := fun h => hc h
      rw [List.singleton_append, readString, if_neg hquote, if_neg hbackslash, if_neg hspace]

theorem readString_escapes (rest : Text) : ∀ t done : Text,
    readString .plain done (t.flatMap escapeChar ++ '"' :: rest) = .ok (done.reverse ++ t, rest)
  | [], done => by rw [List.append_nil]; rfl
  | c :: t, done => by
    rw [List.flatMap_cons, List.append_assoc, readString_escapeChar, readString_escapes rest t,
      List.reverse_cons, List.append_assoc, List.singleton_append]

/-! ## Integers -/

/-- A text that does not go on with a number. -/
def Ends (rest : Text) : Prop :=
  ∀ c ∈ rest.head?, c.isDigit = false ∧ c ≠ '.' ∧ c ≠ 'e' ∧ c ≠ 'E'

theorem Ends.takeWhile {rest : Text} (h : Ends rest) : rest.takeWhile Char.isDigit = [] := by
  cases rest with
  | nil => rfl
  | cons c rest => rw [List.takeWhile_cons, (h c rfl).1, if_neg Bool.false_ne_true]

theorem Ends.dropWhile {rest : Text} (h : Ends rest) : rest.dropWhile Char.isDigit = rest := by
  cases rest with
  | nil => rfl
  | cons c rest => rw [List.dropWhile_cons, (h c rfl).1, if_neg Bool.false_ne_true]

theorem le_ofDigitChars : ∀ (ds : List Char) (value : Nat), value ≤ Nat.ofDigitChars 10 ds value
  | [], _ => Nat.le_refl _
  | d :: ds, value => by
    rw [Nat.ofDigitChars_cons]
    exact Nat.le_trans (by omega) (le_ofDigitChars ds _)

theorem takeDigits_append {limit : Nat} {rest : Text} (hrest : Ends rest) :
    ∀ (ds : List Char) (value count : Nat), (∀ d ∈ ds, d.isDigit = true) →
      Nat.ofDigitChars 10 ds value < limit →
      takeDigits limit value count (ds ++ rest) =
        (Nat.ofDigitChars 10 ds value, count + ds.length, rest)
  | [], value, count, _, _ => by
    cases rest with
    | nil => rfl
    | cons c rest =>
      have hc : c.isDigit = false := (hrest c rfl).1
      rw [List.nil_append, takeDigits, if_neg (by simp [hc])]
      rfl
  | d :: ds, value, count, hds, hlimit => by
    obtain ⟨hd, hds⟩ := List.forall_mem_cons.1 hds
    have hdigit : d.toNat - '0'.toNat = digitValue d := rfl
    rw [Nat.ofDigitChars_cons, Nat.mul_comm, hdigit] at hlimit ⊢
    have hnext : value * 10 + digitValue d < limit :=
      Nat.lt_of_le_of_lt (le_ofDigitChars ds _) hlimit
    rw [List.cons_append, takeDigits, if_pos ⟨hd, hnext⟩, List.length_cons,
      takeDigits_append hrest ds _ _ hds hlimit, Nat.add_assoc, Nat.add_comm 1]

theorem head?_toDigits_ne {n : Nat} (hn : 0 < n) : (Nat.toDigits 10 n).head? ≠ some '0' := by
  induction n using Nat.strongRecOn with
  | _ n ih =>
    by_cases h : n < 10
    · rw [Nat.toDigits_of_lt_base h]
      intro hzero
      have hzero : Nat.digitChar n = '0' := Option.some.inj hzero
      rw [Nat.digitChar_eq_zero] at hzero
      omega
    · have hfront := ih (n / 10) (by omega) (by omega)
      rw [Nat.toDigits_of_base_le (by omega) (by omega)]
      obtain ⟨c, ds, hds⟩ := List.exists_cons_of_ne_nil (Nat.toDigits_ne_nil (n := n / 10) (b := 10))
      rw [hds] at hfront ⊢
      exact hfront

theorem isDigit_behind_zero {n : Nat} {c : Char} {ds rest : Text} (hds : Nat.toDigits 10 n = c :: ds)
    (hrest : Ends rest) : ¬ (c = '0' ∧ ((ds ++ rest).head?.map Char.isDigit).getD false = true) := by
  rintro ⟨rfl, hnext⟩
  have hzero : n = 0 :=
    Nat.eq_zero_of_not_pos (fun hn => head?_toDigits_ne hn (by rw [hds]; rfl))
  rw [hzero, Nat.toDigits_zero] at hds
  cases hds
  cases rest with
  | nil => cases hnext
  | cons c rest =>
    rw [List.nil_append, List.head?_cons, Option.map_some, (hrest c rfl).1] at hnext
    cases hnext

theorem readNumber_ofNat (negative : Bool) {n : Nat} (hn : n < significandLimit) {rest : Text}
    (hrest : Ends rest) :
    readNumber negative (Text.ofNat n ++ rest) = integerOf negative n rest := by
  have hdigits : ∀ d ∈ Nat.toDigits 10 n, d.isDigit = true := Text.isDigit_of_mem_ofNat
  have htake : takeDigits significandLimit 0 0 (Nat.toDigits 10 n ++ rest) =
      (n, (Nat.toDigits 10 n).length, rest) := by
    rw [takeDigits_append hrest _ _ _ hdigits (by rwa [Nat.ofDigitChars_ten_toDigits]),
      Nat.ofDigitChars_ten_toDigits, Nat.zero_add]
  obtain ⟨c, ds, hds⟩ := List.exists_cons_of_ne_nil (Nat.toDigits_ne_nil (n := n) (b := 10))
  have hzero := isDigit_behind_zero hds hrest
  rw [hds] at htake hdigits
  rw [Text.ofNat, hds, List.cons_append, readNumber]
  have hc : c.isDigit = true := hdigits c List.mem_cons_self
  rw [hc, if_neg (by decide), if_neg hzero, ← List.cons_append, htake]
  simp only [hrest.takeWhile, hrest.dropWhile]
  split
  · exact absurd rfl (hrest _ rfl).2.1
  · exact absurd rfl (hrest _ rfl).2.2.1
  · exact absurd rfl (hrest _ rfl).2.2.2
  · rfl

theorem readScalar_of_isDigit {c : Char} (hc : c.isDigit = true) (t : Text) :
    readScalar (c :: t) = readNumber false (c :: t) := by
  unfold readScalar
  split <;> rename_i h <;> cases h
  -- no digit starts a word, is a sign or is a quote
  all_goals first | cases hc | exact if_pos hc

/-- **An integer of 64 bits is read back.** -/
theorem readScalar_ofInt {n : Int} (hlow : -(twoTo 63 : Int) ≤ n) (hhigh : n < twoTo 64) {rest : Text}
    (hrest : Ends rest) : readScalar (Text.ofInt n ++ rest) = .ok (.int n, rest) := by
  cases n with
  | ofNat n =>
    have hn : n < significandLimit := Int.ofNat_lt.1 hhigh
    obtain ⟨c, ds, hds, hc⟩ := Text.ofNat_eq_cons n
    have hnumber := readNumber_ofNat false hn hrest
    rw [hds, List.cons_append] at hnumber
    rw [Text.ofInt, hds, List.cons_append, readScalar_of_isDigit hc, hnumber]
    rfl
  | negSucc n =>
    have hbits : twoTo 63 = 2 ^ 63 ∧ significandLimit = 2 ^ 64 := ⟨rfl, rfl⟩
    have hn : n + 1 < significandLimit := by omega
    have hrange : ¬ (n + 1 = 0 ∨ twoTo 63 < n + 1) := by omega
    change readNumber true (Text.ofNat (n + 1) ++ rest) = _
    rw [readNumber_ofNat true hn hrest, integerOf, if_neg (by decide), if_neg hrange]
    rfl

end Json
end ApiTypes
