import ApiTypes.Proofs.ErrorEnum.Words
/-!
# Messages in other words

The name of a message depends on the first five of its significant words.  So it stays the same under
whatever leaves these as they are: punctuation put in, gaps made longer, stop words put in or taken
out, and anything behind the fifth of them (`constantName_reworded`).
-/
namespace ApiTypes
namespace ErrorEnum

structure IsGap (gap : Text) : Prop where
  ne_nil : gap ≠ []
  isBlank : ∀ c ∈ gap, isBlank c = true

/-- The punctuation of ASCII, without the underscore. -/
def isPunctuation (c : Char) : Bool :=
  0x20 < c.toNat && c.toNat < 0x7F && !c.isAlphanum && c ≠ '_'

/-- A stop word in capitals, small letters or both. -/
def IsStopWord (s : Text) : Prop := s.map Char.toUpper ∈ stopWords

theorem isGap_iff {gap : Text} : IsGap gap ↔ (!gap.isEmpty && gap.all isBlank) = true := by
  rw [Bool.and_eq_true, Bool.not_eq_true', List.isEmpty_eq_false_iff, List.all_eq_true]
  exact ⟨fun h => ⟨h.ne_nil, h.isBlank⟩, fun h => ⟨h.1, h.2⟩⟩

instance (gap : Text) : Decidable (IsGap gap) := decidable_of_iff' _ isGap_iff

instance (s : Text) : Decidable (IsStopWord s) := inferInstanceAs (Decidable (_ ∈ _))

/-! ## Punctuation -/

theorem clean_of_isPunctuation {p : Text} (h : ∀ c ∈ p, isPunctuation c = true) : clean p = [] := by
  have hchar : ∀ c ∈ p, cleanChar c = [] := by
    intro c hc
    have hp := h c hc
    have hascii : c.toNat < 128 := by
      simp only [isPunctuation, Bool.and_eq_true, decide_eq_true_eq] at hp
      omega
    exact forall_ascii (P := fun c => isPunctuation c = true → cleanChar c = []) (by decide +kernel)
      hascii hp
  rw [clean_eq_flatMap, List.flatMap_eq_nil_iff]
  exact hchar

theorem significantWords_put {p : Text} (h : ∀ c ∈ p, isPunctuation c = true) (a b : Text) :
    significantWords (a ++ p ++ b) = significantWords (a ++ b) := by
  have hclean : clean (a ++ p ++ b) = clean (a ++ b) := by
    rw [clean_append, clean_append, clean_append, clean_of_isPunctuation h, List.append_nil]
  exact congrArg (fun t => (Text.words t).filter (fun w => !stopWords.contains w)) hclean

/-! ## Stop words -/

theorem IsStopWord.isAlpha {s : Text} (h : IsStopWord s) : ∀ c ∈ s, c.isAlpha = true := by
  have hletters : stopWords.all (fun w => w.all Char.isUpper) = true := by decide
  have hstop : (s.map Char.toUpper).all Char.isUpper = true := List.all_eq_true.1 hletters _ h
  intro c hc
  exact isAlpha_of_isUpper_toUpper (List.all_eq_true.1 hstop _ (List.mem_map_of_mem hc))

theorem IsStopWord.clean_eq {s : Text} (h : IsStopWord s) : clean s = s.map Char.toUpper := by
  refine clean_congr (fun c hc => ?_)
  have hc := h.isAlpha c hc
  exact forall_ascii (P := fun c => c.isAlpha = true → cleanChar c = [c.toUpper]) (by decide +kernel)
    (toNat_lt_of_isAlpha hc) hc

/-- **A stop word goes into no name.** -/
theorem IsStopWord.significantWords_eq_nil {s : Text} (h : IsStopWord s) :
    significantWords s = [] := by
  have hblank : ∀ c ∈ s, isBlank c = false := fun c hc =>
    forall_ascii (P := fun c => c.isAlpha = true → isBlank c = false) (by decide)
      (toNat_lt_of_isAlpha (h.isAlpha c hc)) (h.isAlpha c hc)
  have hmem : s.map Char.toUpper ∈ stopWords := h
  have hstop : isSignificant s = false := by
    rw [isSignificant, h.clean_eq, List.contains_eq_mem, decide_eq_true hmem, Bool.not_true,
      Bool.and_false]
  rw [significantWords_of_not_blank hblank, hstop, if_neg Bool.false_ne_true]

/-! ## Rewording -/

theorem IsGap.significantWords_eq {gap : Text} (h : IsGap gap) (a b : Text) :
    significantWords (a ++ gap ++ b) = significantWords a ++ significantWords b :=
  significantWords_across_gap h.ne_nil h.isBlank a b

theorem IsStopWord.significantWords_between {stop front back : Text} (h : IsStopWord stop)
    (hfront : IsGap front) (hback : IsGap back) (a b : Text) :
    significantWords (a ++ front ++ stop ++ back ++ b) =
      significantWords a ++ significantWords b := by
  rw [hback.significantWords_eq, hfront.significantWords_eq, h.significantWords_eq_nil,
    List.append_nil]

/-- **A name depends on the first five significant words of its message.**  It is made of these, each
cleaned by itself, so a name names itself, and the name of a message is not changed by punctuation that
is put in anywhere, by wider gaps or white space at the ends, by a stop word with gaps around it, or by
what stands behind a gap when five significant words are in front. -/
theorem constantName_reworded :
    (∀ m : Text, constantName m =
      Text.join ['_'] ((((Text.words m).filter isSignificant).map clean).take 5)) ∧
    (∀ m : Text, constantName (constantName m) = constantName m) ∧
    (∀ a p b : Text, (∀ c ∈ p, isPunctuation c = true) →
      constantName (a ++ p ++ b) = constantName (a ++ b)) ∧
    (∀ a gap wider b : Text, IsGap gap → IsGap wider →
      constantName (a ++ wider ++ b) = constantName (a ++ gap ++ b)) ∧
    (∀ front m back : Text, (∀ c ∈ front, isBlank c = true) → (∀ c ∈ back, isBlank c = true) →
      constantName (front ++ m ++ back) = constantName m) ∧
    (∀ stop : Text, IsStopWord stop →
      (∀ a gap front back b : Text, IsGap gap → IsGap front → IsGap back →
        constantName (a ++ front ++ stop ++ back ++ b) = constantName (a ++ gap ++ b)) ∧
      ∀ gap m : Text, IsGap gap → constantName (stop ++ gap ++ m) = constantName m ∧
        constantName (m ++ gap ++ stop) = constantName m) ∧
    ∀ m gap t : Text, 5 ≤ (Text.words m).countP isSignificant → IsGap gap →
      constantName (m ++ gap ++ t) = constantName m := by
  refine ⟨fun m => ?_, constantName_constantName, fun a p b hp => ?_, fun a gap wider b hgap hwider => ?_,
    fun front m back hfront hback => ?_, fun stop hstop => ⟨?_, fun gap m hgap => ⟨?_, ?_⟩⟩,
    fun m gap t hm hgap => ?_⟩
  · rw [constantName, significantWords_eq, wordLimit]
  · rw [constantName, significantWords_put hp, constantName]
  · rw [constantName, hwider.significantWords_eq, ← hgap.significantWords_eq, constantName]
  · rw [constantName, significantWords_between_gaps hfront hback, constantName]
  · intro a gap front back b hgap hfront hback
    rw [constantName, hstop.significantWords_between hfront hback, ← hgap.significantWords_eq,
      constantName]
  · rw [constantName, hgap.significantWords_eq, hstop.significantWords_eq_nil, List.nil_append,
      constantName]
  · rw [constantName, hgap.significantWords_eq, hstop.significantWords_eq_nil, List.append_nil,
      constantName]
  · have hlength : wordLimit ≤ (significantWords m).length := by
      rw [significantWords_eq, List.length_map, ← List.countP_eq_length_filter]
      exact hm
    rw [constantName, hgap.significantWords_eq, List.take_append_of_le_length hlength, constantName]

/-- Words that become capitals of ASCII only when their case is changed, one that holds an underscore,
one that nothing is left of, and stop words in two cases. -/
def motleyMessage : Text := "Please, ﬁx tHe 'api_key' ſoon §§"

theorem constantName_reworded_motley :
    constantName motleyMessage = "FIX_API_KEY_SOON" ∧
    constantName "FIX_API_KEY_SOON" = "FIX_API_KEY_SOON" ∧
    constantName ("Please, ﬁ".toList ++ "?!" ++ "x tHe 'api_key' ſoon §§") = "FIX_API_KEY_SOON" ∧
    constantName ("\t\n".toList ++ motleyMessage ++ "\u3000") = "FIX_API_KEY_SOON" ∧
    constantName ("Please, ﬁx".toList ++ "\u2028 " ++ "oWneR" ++ "\t" ++ "tHe 'api_key' ſoon §§") =
      "FIX_API_KEY_SOON" ∧
    constantName ("again".toList ++ " " ++ motleyMessage) = "FIX_API_KEY_SOON" ∧
    constantName (("now or never, ".toList ++ motleyMessage) ++ "\r\n" ++ "this goes") =
      "NOW_OR_NEVER_FIX_API_KEY" := by
  obtain ⟨-, htwice, hput, -, hends, hstop, hbehind⟩ := constantName_reworded
  have hname : constantName motleyMessage = "FIX_API_KEY_SOON" := by decide +kernel
  have htwice := htwice motleyMessage
  have hput := hput "Please, ﬁ" "?!" "x tHe 'api_key' ſoon §§" (List.all_eq_true.1 (by decide))
  have hends := hends "\t\n" motleyMessage "\u3000" (List.all_eq_true.1 (by decide))
    (List.all_eq_true.1 (by decide))
  have howner := (hstop "oWneR" (by decide)).1 "Please, ﬁx" " " "\u2028 " "\t" "tHe 'api_key' ſoon §§"
    (by decide) (by decide) (by decide)
  have hagain := ((hstop "again" (by decide)).2 " " motleyMessage (by decide)).1
  have hfive := hbehind ("now or never, ".toList ++ motleyMessage) "\r\n" "this goes"
    (by decide +kernel) (by decide)
  have hlong : constantName ("now or never, ".toList ++ motleyMessage) =
      "NOW_OR_NEVER_FIX_API_KEY" := by
    decide +kernel
  have hglued : "Please, ﬁ".toList ++ "x tHe 'api_key' ſoon §§" = motleyMessage := by decide
  have hparted : "Please, ﬁx".toList ++ " " ++ "tHe 'api_key' ſoon §§" = motleyMessage := by decide
  rw [hname] at htwice hends hagain
  rw [hglued, hname] at hput
  rw [hparted, hname] at howner
  rw [hlong] at hfive
  exact ⟨hname, htwice, hput, hends, howner, hagain, hfive⟩

end ErrorEnum
end ApiTypes
