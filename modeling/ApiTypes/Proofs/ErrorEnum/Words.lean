import ApiTypes.ErrorEnum
import ApiTypes.Proofs.Text.Words
/-!
# The words of a constant name

Cleaning a message leaves its white space where it is and makes none, so a message is cleaned word by
word, and its constant name is made of the words that something significant is left of
(`significantWords_eq`).  What is left has no gap, so a name is a single word of its own and names
itself (`constantName_constantName`).
-/
namespace ApiTypes
namespace ErrorEnum

def isConstantChar (c : Char) : Bool := c.isUpper || c.isDigit || c = '_'

/-- What is left of one character: its capital, if a name holds that, and white space as it is. -/
def cleanChar (c : Char) : Text := (upperChar c).filter isKept

def clean (t : Text) : Text := t.upper.filter isKept

/-- Whether a word goes into a name: something is left of it, and that is no stop word. -/
def isSignificant (w : Text) : Bool := !(clean w).isEmpty && !stopWords.contains (clean w)

/-! ## Cleaning -/

theorem clean_eq_flatMap (t : Text) : clean t = t.flatMap cleanChar := by
  rw [clean, Text.upper, List.filter_flatMap]
  rfl

theorem clean_append (a b : Text) : clean (a ++ b) = clean a ++ clean b := by
  rw [clean_eq_flatMap, clean_eq_flatMap, clean_eq_flatMap, List.flatMap_append]

theorem cleanChar_of_isBlank {c : Char} (h : isBlank c = true) : cleanChar c = [c] := by
  have hkept : isKept c = true := by rw [isKept, h, Bool.or_true]
  rw [cleanChar, upperChar_of_isBlank h, List.filter_cons_of_pos hkept]
  rfl

theorem isBlank_of_mem_cleanChar {c : Char} (h : isBlank c = false) :
    ∀ d ∈ cleanChar c, isBlank d = false :=
  fun d hd => isBlank_of_mem_upperChar h d (List.mem_filter.1 hd).1

theorem isConstantChar_of_mem_cleanChar {c : Char} (h : isBlank c = false) :
    ∀ d ∈ cleanChar c, isConstantChar d = true := by
  intro d hd
  obtain ⟨hupper, hkept⟩ := List.mem_filter.1 hd
  have hlower : d.isLower = false := isLower_of_mem_upperChar hupper
  have halpha : d.isAlpha = d.isUpper :=
    (congrArg (d.isUpper || ·) hlower).trans (Bool.or_false _)
  rw [isKept, Char.isAlphanum, halpha, isBlank_of_mem_cleanChar h d hd, Bool.or_false] at hkept
  exact hkept

theorem isConstantChar_of_mem_clean {w : Text} (h : ∀ c ∈ w, isBlank c = false) :
    ∀ d ∈ clean w, isConstantChar d = true := by
  intro d hd
  rw [clean_eq_flatMap] at hd
  obtain ⟨c, hc, hd⟩ := List.mem_flatMap.1 hd
  exact isConstantChar_of_mem_cleanChar (h c hc) d hd

theorem clean_congr {f : Char → Char} {w : Text} (h : ∀ c ∈ w, cleanChar c = [f c]) :
    clean w = w.map f := by
  rw [clean_eq_flatMap, List.flatMap_congr h, List.map_eq_flatMap]

theorem toNat_lt_of_isConstantChar {c : Char} (h : isConstantChar c = true) : c.toNat < 128 := by
  simp only [isConstantChar, Bool.or_eq_true, decide_eq_true_eq] at h
  rcases h with (h | h) | rfl
  · exact toNat_lt_of_isAlpha (Bool.or_eq_true_iff.2 (Or.inl h))
  · exact toNat_lt_of_isAlphanum (by rw [Char.isAlphanum, h, Bool.or_true])
  · decide

theorem isBlank_of_isConstantChar {c : Char} (h : isConstantChar c = true) : isBlank c = false :=
  forall_ascii (P := fun c => isConstantChar c = true → isBlank c = false) (by decide)
    (toNat_lt_of_isConstantChar h) h

theorem clean_of_isConstantChar {w : Text} (h : ∀ c ∈ w, isConstantChar c = true) :
    clean w = w := by
  have hchar : ∀ c ∈ w, cleanChar c = [id c] := fun c hc =>
    forall_ascii (P := fun c => isConstantChar c = true → cleanChar c = [id c]) (by decide +kernel)
      (toNat_lt_of_isConstantChar (h c hc)) (h c hc)
  rw [clean_congr hchar, List.map_id]

/-! ## The words that a name is made of -/

/-- **A message is cleaned word by word.** -/
theorem significantWords_eq (m : Text) :
    significantWords m = ((Text.words m).filter isSignificant).map clean := by
  have hclean : (fun w : Text => w.flatMap cleanChar) = clean :=
    funext (fun w => (clean_eq_flatMap w).symm)
  have hwords : Text.words (clean m) =
      ((Text.words m).map clean).filter (fun w => !w.isEmpty) := by
    rw [clean_eq_flatMap, Text.words, Text.words, ← hclean]
    exact Text.tokens_flatMap (fun c => cleanChar_of_isBlank) (fun c => isBlank_of_mem_cleanChar) m
  change (Text.words (clean m)).filter (fun w => !stopWords.contains w) = _
  rw [hwords, List.filter_filter, List.filter_map]
  congr 1
  exact List.filter_congr (fun w _ => Bool.and_comm _ _)

theorem of_mem_significantWords {m w : Text} (h : w ∈ significantWords m) :
    w ≠ [] ∧ w ∉ stopWords ∧ ∀ c ∈ w, isConstantChar c = true := by
  rw [significantWords_eq] at h
  obtain ⟨v, hv, rfl⟩ := List.mem_map.1 h
  obtain ⟨hword, hsignificant⟩ := List.mem_filter.1 hv
  rw [isSignificant, Bool.and_eq_true, Bool.not_eq_true', Bool.not_eq_true', List.isEmpty_eq_false_iff,
    List.contains_eq_mem, decide_eq_false_iff_not] at hsignificant
  exact ⟨hsignificant.1, hsignificant.2,
    isConstantChar_of_mem_clean (fun c hc => (Text.of_mem_tokens hword c hc).2)⟩

theorem significantWords_across_gap {gap : Text} (hne : gap ≠ []) (h : ∀ c ∈ gap, isBlank c = true)
    (a b : Text) : significantWords (a ++ gap ++ b) = significantWords a ++ significantWords b := by
  rw [significantWords_eq, significantWords_eq, significantWords_eq, Text.words_across_gap hne h,
    List.filter_append, List.map_append]

theorem significantWords_between_gaps {front back : Text} (hfront : ∀ c ∈ front, isBlank c = true)
    (hback : ∀ c ∈ back, isBlank c = true) (m : Text) :
    significantWords (front ++ m ++ back) = significantWords m := by
  rw [significantWords_eq, significantWords_eq, Text.words_between_gaps hfront hback]

theorem significantWords_of_not_blank {w : Text} (h : ∀ c ∈ w, isBlank c = false) :
    significantWords w = if isSignificant w then [clean w] else [] := by
  rw [significantWords_eq, Text.words_of_not_blank h]
  cases w with
  | nil => rfl
  | cons c rest =>
    rw [List.isEmpty_cons, if_neg Bool.false_ne_true, List.filter_singleton]
    cases isSignificant (c :: rest) <;> rfl

/-! ## The name -/

theorem of_mem_take {m w : Text} (h : w ∈ (significantWords m).take wordLimit) :
    w ≠ [] ∧ w ∉ stopWords ∧ ∀ c ∈ w, isConstantChar c = true :=
  of_mem_significantWords (List.mem_of_mem_take h)

theorem isConstantChar_of_mem_constantName {m : Text} :
    ∀ c ∈ constantName m, isConstantChar c = true := by
  intro c hc
  rcases Text.mem_join hc with hc | ⟨w, hw, hc⟩
  · rw [List.mem_singleton.1 hc]
    rfl
  · exact (of_mem_take hw).2.2 c hc

/-- No name is a stop word: it is a word that is none, or holds an underscore. -/
theorem constantName_not_mem_stopWords (m : Text) : constantName m ∉ stopWords := by
  have hword : ∀ w ∈ (significantWords m).take wordLimit, w ∉ stopWords :=
    fun w hw => (of_mem_take hw).2.1
  have hplain : ∀ s ∈ stopWords, s ≠ [] ∧ '_' ∉ s := by decide
  rw [constantName]
  match (significantWords m).take wordLimit, hword with
  | [], _ => exact fun h => (hplain _ h).1 rfl
  | [w], hword =>
    rw [Text.join_singleton]
    exact hword w List.mem_cons_self
  | v :: w :: rest, _ =>
    rw [Text.join_cons_cons]
    exact fun h => (hplain _ h).2 (by simp)

/-- **A name is the name of itself.** -/
theorem constantName_constantName (m : Text) : constantName (constantName m) = constantName m := by
  have hchars : ∀ c ∈ constantName m, isConstantChar c = true := isConstantChar_of_mem_constantName
  have hblank : ∀ c ∈ constantName m, isBlank c = false :=
    fun c hc => isBlank_of_isConstantChar (hchars c hc)
  have hsignificant : isSignificant (constantName m) = !(constantName m).isEmpty := by
    rw [isSignificant, clean_of_isConstantChar hchars, List.contains_eq_mem,
      decide_eq_false (constantName_not_mem_stopWords m), Bool.not_false, Bool.and_true]
  rw [constantName, significantWords_of_not_blank hblank, hsignificant,
    clean_of_isConstantChar hchars]
  cases constantName m with
  | nil => rfl
  | cons c rest => exact Text.join_singleton _ _

end ErrorEnum
end ApiTypes
