import ApiTypes.Text.Utf8
/-!
# Texts are read back from their bytes

The bytes of a character take the machine that reads UTF-8 from between characters to between
characters, and what it has read then is that character (`items_encode`).  So a text is read back from
its bytes (`ofUtf8_utf8`).
-/
namespace ApiTypes
namespace Utf8

variable {b : Nat} {o : Open} {rest : Bytes}

theorem items_start (hb : b < 256) (h : start b = ([], some o)) :
    items none (UInt8.ofNat b :: rest) = items (some o) rest := by
  rw [items, UInt8.toNat_ofNat_of_lt' hb, step, h]
  rfl

theorem items_next (hb : b < 256) (hlow : o.low ≤ b) (hhigh : b ≤ o.high) (howed : o.owed ≠ 1) :
    items (some o) (UInt8.ofNat b :: rest) =
      items (some ⟨o.seen + 1, o.owed - 1, 0x80, 0xBF, o.bits * 64 + (b - 0x80)⟩) rest := by
  rw [items, UInt8.toNat_ofNat_of_lt' hb, step, if_pos ⟨hlow, hhigh⟩, if_neg howed]
  rfl

theorem items_last (hb : b < 256) (hlow : o.low ≤ b) (hhigh : b ≤ o.high) (howed : o.owed = 1) :
    items (some o) (UInt8.ofNat b :: rest) =
      .char (Char.ofNat (o.bits * 64 + (b - 0x80))) :: items none rest := by
  rw [items, UInt8.toNat_ofNat_of_lt' hb, step, if_pos ⟨hlow, hhigh⟩, if_pos howed]
  rfl

/-! ## First bytes -/

theorem start_of_two (hlow : 0xC2 ≤ b) (hhigh : b < 0xE0) :
    start b = ([], some ⟨1, 1, 0x80, 0xBF, b - 0xC0⟩) := by
  rw [start, if_neg (by omega), if_neg (by omega), if_pos hhigh]

/-- The first of three bytes.  The second one must keep the character from being overlong, or a
surrogate. -/
theorem start_of_three (hlow : 0xE0 ≤ b) (hhigh : b < 0xF0) {n : Nat} (hn : 0x80 ≤ n)
    (hn' : n ≤ 0xBF) (hoverlong : b = 0xE0 → 0xA0 ≤ n) (hsurrogate : b = 0xED → n ≤ 0x9F) :
    ∃ low high, start b = ([], some ⟨1, 2, low, high, b - 0xE0⟩) ∧ low ≤ n ∧ n ≤ high := by
  rw [start, if_neg (by omega), if_neg (by omega), if_neg (by omega)]
  by_cases h : b = 0xE0
  · rw [if_pos h, h]
    exact ⟨_, _, rfl, hoverlong h, hn'⟩
  · rw [if_neg h]
    by_cases h' : b = 0xED
    · rw [if_pos h', h']
      exact ⟨_, _, rfl, hn, hsurrogate h'⟩
    · rw [if_neg h', if_pos hhigh]
      exact ⟨_, _, rfl, hn, hn'⟩

/-- The first of four bytes.  The second one must keep the character from being overlong, or beyond
the last one. -/
theorem start_of_four (hlow : 0xF0 ≤ b) (hhigh : b ≤ 0xF4) {n : Nat} (hn : 0x80 ≤ n)
    (hn' : n ≤ 0xBF) (hoverlong : b = 0xF0 → 0x90 ≤ n) (hbeyond : b = 0xF4 → n ≤ 0x8F) :
    ∃ low high, start b = ([], some ⟨1, 3, low, high, b - 0xF0⟩) ∧ low ≤ n ∧ n ≤ high := by
  rw [start, if_neg (by omega), if_neg (by omega), if_neg (by omega), if_neg (by omega),
    if_neg (by omega), if_neg (by omega)]
  by_cases h : b = 0xF0
  · rw [if_pos h, h]
    exact ⟨_, _, rfl, hoverlong h, hn'⟩
  · rw [if_neg h]
    by_cases h' : b < 0xF4
    · rw [if_pos h']
      exact ⟨_, _, rfl, hn, hn'⟩
    · have hlast : b = 0xF4 := by omega
      rw [if_neg h', if_pos hlast, hlast]
      exact ⟨_, _, rfl, hn, hbeyond hlast⟩

/-! ## Characters -/

theorem items_encode (c : Char) (rest : Bytes) :
    items none (String.utf8EncodeChar c ++ rest) = .char c :: items none rest := by
  have hvalid : c.toNat < 0xD800 ∨ 0xDFFF < c.toNat ∧ c.toNat < 0x110000 := c.valid
  have hback : Char.ofNat c.toNat = c := Char.ofNat_toNat c
  have hval : c.val.toNat = c.toNat := rfl
  unfold String.utf8EncodeChar
  dsimp only
  rw [hval]
  -- one case for each number of bytes; the bits of the bytes together are the code point again
  generalize c.toNat = v at hvalid hback
  split
  · have hbyte : v < 256 := by omega
    rw [List.cons_append, items, UInt8.toNat_ofNat_of_lt' hbyte, step, start, if_pos (by omega),
      hback]
    rfl
  split
  · have hbits : (v / 64 % 32 + 192 - 0xC0) * 64 + (v % 64 + 128 - 0x80) = v := by omega
    rw [List.cons_append, items_start (by omega) (start_of_two (by omega) (by omega)),
      List.cons_append, items_last (by omega) (by dsimp only; omega) (by dsimp only; omega) rfl]
    dsimp only
    rw [hbits, hback]
    rfl
  split
  · have hbits : ((v / 4096 % 16 + 224 - 0xE0) * 64 + (v / 64 % 64 + 128 - 0x80)) * 64 +
        (v % 64 + 128 - 0x80) = v := by
      omega
    obtain ⟨low, high, hstart, hlow, hhigh⟩ := start_of_three (b := v / 4096 % 16 + 224)
      (n := v / 64 % 64 + 128) (by omega) (by omega) (by omega) (by omega) (by omega) (by omega)
    rw [List.cons_append, items_start (by omega) hstart, List.cons_append,
      items_next (by omega) hlow hhigh (by simp only; decide), List.cons_append,
      items_last (by omega) (by dsimp only; omega) (by dsimp only; omega) rfl]
    dsimp only
    rw [hbits, hback]
    rfl
  · have hbits : (((v / 262144 % 8 + 240 - 0xF0) * 64 + (v / 4096 % 64 + 128 - 0x80)) * 64 +
        (v / 64 % 64 + 128 - 0x80)) * 64 + (v % 64 + 128 - 0x80) = v := by
      omega
    obtain ⟨low, high, hstart, hlow, hhigh⟩ := start_of_four (b := v / 262144 % 8 + 240)
      (n := v / 4096 % 64 + 128) (by omega) (by omega) (by omega) (by omega) (by omega) (by omega)
    rw [List.cons_append, items_start (by omega) hstart, List.cons_append,
      items_next (by omega) hlow hhigh (by simp only; decide), List.cons_append,
      items_next (by omega) (by dsimp only; omega) (by dsimp only; omega) (by simp only; decide),
      List.cons_append,
      items_last (by omega) (by dsimp only; omega) (by dsimp only; omega) rfl]
    dsimp only
    rw [hbits, hback]
    rfl

end Utf8

namespace Text

open Utf8

theorem ofItems_chars (t : Text) : ∀ index, ofItems index (t.map Item.char) = .ok t := by
  induction t with
  | nil => exact fun _ => rfl
  | cons c rest ih =>
    intro index
    rw [List.map_cons, ofItems, ih]
    rfl

theorem items_utf8 : ∀ t : Text, items none t.utf8 = t.map Item.char
  | [] => rfl
  | c :: rest => by
    rw [utf8, List.flatMap_cons, items_encode, List.map_cons, ← items_utf8 rest]
    rfl

/-- **A text is read back from its bytes.** -/
theorem ofUtf8_utf8 (t : Text) : ofUtf8 t.utf8 = .ok t := by
  rw [ofUtf8, items_utf8, ofItems_chars]

end Text
end ApiTypes
