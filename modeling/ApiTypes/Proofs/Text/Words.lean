import ApiTypes.Proofs.Text.Case
/-!
# The words of a text

A run of separators cuts a text in two, each side by itself (`tokens_across_gap`).  If every character
is exchanged for some text, in which separators stay as they are and nothing else becomes one, then
the words are exchanged one by one (`tokens_flatMap`).  Capitals are such an exchange: white space is
its own capital, and no other character has a capital that is white space.
-/
namespace ApiTypes

namespace Text

/-! ## Gaps -/

theorem tokens_behind_gap {isSep : Char → Bool} : ∀ {s : Text}, (∀ c ∈ s, isSep c = true) →
    ∀ b : Text, tokens isSep (s ++ b) = tokens isSep b
  | [], _, _ => rfl
  | c :: rest, h, b => by
    obtain ⟨hc, hrest⟩ := List.forall_mem_cons.1 h
    -- nothing stands in front of the separator
    have hfront : tokens isSep (c :: (rest ++ b)) = tokens isSep [] ++ tokens isSep (rest ++ b) :=
      tokens_append_sep isSep hc [] (rest ++ b)
    rw [List.cons_append, hfront, tokens_behind_gap hrest]
    rfl

/-- **A run of separators cuts a text in two.** -/
theorem tokens_across_gap {isSep : Char → Bool} {s : Text} (hne : s ≠ [])
    (h : ∀ c ∈ s, isSep c = true) (a b : Text) :
    tokens isSep (a ++ s ++ b) = tokens isSep a ++ tokens isSep b := by
  obtain ⟨c, rest, rfl⟩ := List.exists_cons_of_ne_nil hne
  obtain ⟨hc, hrest⟩ := List.forall_mem_cons.1 h
  rw [List.append_assoc, List.cons_append, tokens_append_sep isSep hc, tokens_behind_gap hrest]

/-! ## Exchanging characters -/

theorem pieces_cons_of_not {isSep : Char → Bool} {c : Char} (hc : isSep c = false) (t : Text) :
    pieces isSep (c :: t) = (pieces isSep t).modifyHead (c :: ·) := by
  rw [pieces, if_neg (by simp [hc])]
  split
  · rename_i h
    exact absurd h (pieces_ne_nil isSep t)
  · rename_i p ps h
    rw [h]
    rfl

theorem pieces_append_of_not {isSep : Char → Bool} : ∀ {w : Text}, (∀ c ∈ w, isSep c = false) →
    ∀ t : Text, pieces isSep (w ++ t) = (pieces isSep t).modifyHead (w ++ ·)
  | [], _, t => by
    rw [List.nil_append]
    cases pieces isSep t <;> rfl
  | c :: w, h, t => by
    obtain ⟨hc, hw⟩ := List.forall_mem_cons.1 h
    rw [List.cons_append, pieces_cons_of_not hc, pieces_append_of_not hw]
    cases pieces isSep t <;> rfl

section

variable {isSep : Char → Bool} {f : Char → Text} (hsep : ∀ c, isSep c = true → f c = [c])
  (hword : ∀ c, isSep c = false → ∀ d ∈ f c, isSep d = false)

include hsep hword

theorem pieces_flatMap : ∀ t : Text,
    pieces isSep (t.flatMap f) = (pieces isSep t).map (fun p => p.flatMap f)
  | [] => rfl
  | c :: rest => by
    have ih := pieces_flatMap rest
    rw [List.flatMap_cons]
    cases hc : isSep c with
    | true =>
      rw [hsep c hc, List.singleton_append, pieces, if_pos hc, pieces, if_pos hc, ih]
      rfl
    | false =>
      obtain ⟨p, ps, hpieces⟩ := List.exists_cons_of_ne_nil (pieces_ne_nil isSep rest)
      rw [pieces_append_of_not (hword c hc), ih, pieces_cons_of_not hc, hpieces]
      rfl

/-- **Words are exchanged one by one**, and those that nothing is left of are gone. -/
theorem tokens_flatMap (t : Text) :
    tokens isSep (t.flatMap f) =
      ((tokens isSep t).map (fun w => w.flatMap f)).filter (fun w => !w.isEmpty) := by
  rw [tokens, tokens, pieces_flatMap hsep hword, List.filter_map, List.filter_map, List.filter_filter]
  -- of no character nothing is left
  have hempty : ∀ w : Text, (!(w.flatMap f).isEmpty && !w.isEmpty) = !(w.flatMap f).isEmpty := by
    intro w
    cases w with
    | nil => rfl
    | cons c rest => rw [List.isEmpty_cons, Bool.not_false, Bool.and_true]
  congr 1
  exact List.filter_congr (fun w _ => (hempty w).symm)

end

/-! ## White space -/

theorem words_across_gap {gap : Text} (hne : gap ≠ []) (h : ∀ c ∈ gap, isBlank c = true)
    (a b : Text) : words (a ++ gap ++ b) = words a ++ words b :=
  tokens_across_gap hne h a b

theorem words_between_gaps {front back : Text} (hfront : ∀ c ∈ front, isBlank c = true)
    (hback : ∀ c ∈ back, isBlank c = true) (t : Text) : words (front ++ t ++ back) = words t := by
  rw [words, List.append_assoc, tokens_behind_gap hfront]
  by_cases hne : back = []
  · rw [hne, List.append_nil, words]
  · have hcut := tokens_across_gap hne hback t []
    rw [List.append_nil] at hcut
    rw [hcut, words]
    exact List.append_nil _

theorem words_of_not_blank {w : Text} (h : ∀ c ∈ w, isBlank c = false) :
    words w = if w.isEmpty then [] else [w] :=
  tokens_of_forall_not h

end Text

theorem unreached_blankRanges : Unreached blankRanges :=
  unreached_of_avoids (by decide) (by decide +kernel) (by decide +kernel) (by decide +kernel)

theorem isBlank_of_mem_upperChar {c : Char} (hc : isBlank c = false) :
    ∀ d ∈ upperChar c, isBlank d = false :=
  unreached_blankRanges.upper c hc

theorem upperChar_of_isBlank {c : Char} (hc : isBlank c = true) : upperChar c = [c] := by
  have htable : ∀ r ∈ blankRanges, ∀ n ∈ List.range' r.1 (r.2 + 1 - r.1),
      upperChar (Char.ofNat n) = [Char.ofNat n] := by decide +kernel
  obtain ⟨r, hr, hlow, hhigh⟩ : ∃ r ∈ blankRanges, r.1 ≤ c.toNat ∧ c.toNat ≤ r.2 := by
    simpa [isBlank] using hc
  have hmem : c.toNat ∈ List.range' r.1 (r.2 + 1 - r.1) := by
    rw [List.mem_range'_1]
    omega
  have hupper := htable r hr c.toNat hmem
  rwa [Char.ofNat_toNat] at hupper

end ApiTypes
