import ApiTypes.Naming
import Mathlib.Data.List.Basic
/-!
# The lines of a text

A text is cut into lines at its line feeds, and joining texts as lines is undone by cutting
(`lines_joinLines`).  Neither the case mappings nor the derivation of a type name from a display
name can bring a line feed into a text that has none.
-/
namespace ApiTypes
namespace Text

def isFeed (c : Char) : Bool := c = '\n'

def lines (t : Text) : List Text := pieces isFeed t

theorem mem_join {c : Char} {sep : Text} :
    ∀ {parts : List Text}, c ∈ join sep parts → c ∈ sep ∨ ∃ p ∈ parts, c ∈ p
  | [], h => by rw [join_nil] at h; cases h
  | [p], h => by
    rw [join_singleton] at h
    exact Or.inr ⟨p, List.mem_cons_self, h⟩
  | p :: q :: rest, h => by
    rw [join_cons_cons, List.mem_append, List.mem_append] at h
    rcases h with (h | h) | h
    · exact Or.inr ⟨p, List.mem_cons_self, h⟩
    · exact Or.inl h
    · rcases mem_join h with h | ⟨r, hr, h⟩
      · exact Or.inl h
      · exact Or.inr ⟨r, List.mem_cons_of_mem p hr, h⟩

/-! ## Pieces -/

theorem flatten_pieces (isSep : Char → Bool) : ∀ t : Text,
    (pieces isSep t).flatten = t.filter (fun c => !isSep c)
  | [] => rfl
  | c :: rest => by
    have ih := flatten_pieces isSep rest
    unfold pieces
    split
    · rename_i hc
      rw [List.flatten_cons, List.nil_append, ih, List.filter_cons_of_neg (by simp [hc])]
    · rename_i hc
      rw [List.filter_cons_of_pos (by simp [hc]), ← ih]
      split
      · rename_i h
        exact absurd h (pieces_ne_nil isSep rest)
      · rename_i p ps h
        rw [h]
        rfl

theorem flatten_tokens (isSep : Char → Bool) (t : Text) :
    (tokens isSep t).flatten = t.filter (fun c => !isSep c) := by
  rw [tokens, List.flatten_filter_not_isEmpty, flatten_pieces]

theorem of_mem_pieces (isSep : Char → Bool) {t p : Text} (hp : p ∈ pieces isSep t) :
    ∀ c ∈ p, c ∈ t ∧ isSep c = false := by
  intro c hc
  have hflat : c ∈ (pieces isSep t).flatten := List.mem_flatten_of_mem hp hc
  rwa [flatten_pieces, List.mem_filter, Bool.not_eq_true'] at hflat

theorem of_mem_tokens {isSep : Char → Bool} {t p : Text} (hp : p ∈ tokens isSep t) :
    ∀ c ∈ p, c ∈ t ∧ isSep c = false :=
  of_mem_pieces isSep (List.mem_filter.1 hp).1

theorem pieces_of_forall_not {isSep : Char → Bool} : ∀ {t : Text},
    (∀ c ∈ t, isSep c = false) → pieces isSep t = [t]
  | [], _ => rfl
  | c :: rest, h => by
    obtain ⟨hc, hrest⟩ := List.forall_mem_cons.1 h
    simp [pieces, hc, pieces_of_forall_not hrest]

theorem tokens_of_forall_not {isSep : Char → Bool} {t : Text} (h : ∀ c ∈ t, isSep c = false) :
    tokens isSep t = if t.isEmpty then [] else [t] := by
  rw [tokens, pieces_of_forall_not h]
  cases t <;> rfl

/-- **Texts joined by a separator are cut into the pieces of each of them.** -/
theorem pieces_join {isSep : Char → Bool} {s : Char} (hs : isSep s = true) : ∀ {ts : List Text},
    ts ≠ [] → pieces isSep (join [s] ts) = ts.flatMap (pieces isSep)
  | [], h => absurd rfl h
  | [t], _ => by rw [join_singleton, List.flatMap_singleton]
  | t :: u :: rest, _ => by
    have ih : pieces isSep (join [s] (u :: rest)) = (u :: rest).flatMap (pieces isSep) :=
      pieces_join hs (List.cons_ne_nil u rest)
    have hcut : pieces isSep (join [s] (t :: u :: rest)) =
        pieces isSep t ++ pieces isSep (join [s] (u :: rest)) := by
      rw [join_cons_cons, List.append_assoc]
      exact pieces_append_sep isSep hs _ t
    rw [hcut, ih, List.flatMap_cons, List.flatMap_cons, List.flatMap_cons]

theorem forall_not_of_any {p : Char → Bool} {t : Text} (h : t.any p = false) :
    ∀ c ∈ t, p c = false :=
  fun c hc => Bool.eq_false_iff.2 (List.any_eq_false.1 h c hc)

theorem pieces_join_of_forall_not {isSep : Char → Bool} {s : Char} (hs : isSep s = true)
    {ts : List Text} (hne : ts ≠ []) (h : ∀ t ∈ ts, ∀ c ∈ t, isSep c = false) :
    pieces isSep (join [s] ts) = ts := by
  rw [pieces_join hs hne, List.flatMap_congr (fun t ht => pieces_of_forall_not (h t ht)),
    List.flatMap_singleton']

/-! ## Cutting into lines -/

theorem lines_of_not_mem {t : Text} (h : '\n' ∉ t) : lines t = [t] := by
  refine pieces_of_forall_not (fun c hc => ?_)
  have hne : c ≠ '\n' := fun e => h (e ▸ hc)
  simpa [isFeed] using hne

theorem lines_joinLines {ts : List Text} (hne : ts ≠ []) : lines (joinLines ts) = ts.flatMap lines :=
  pieces_join rfl hne

theorem lines_joinLines_of_not_mem {ts : List Text} (hne : ts ≠ []) (h : ∀ t ∈ ts, '\n' ∉ t) :
    lines (joinLines ts) = ts := by
  rw [lines_joinLines hne, List.flatMap_congr (fun t ht => lines_of_not_mem (h t ht)),
    List.flatMap_singleton']

end Text

/-! ## No new line feed -/

theorem mem_mapCase {expansions : List (Nat × List Nat)} {runs : List CaseRun} {c d : Char}
    (h : d ∈ mapCase expansions runs c) :
    d = c ∨ (∃ e ∈ expansions, ∃ n ∈ e.2, d = Char.ofNat n) ∨
      ∃ r ∈ runs, ∃ n, r.covers n = true ∧ d = Char.ofNat (r.send n) := by
  unfold mapCase at h
  split at h
  · rename_i e he
    obtain ⟨n, hn, rfl⟩ := List.mem_map.1 h
    exact Or.inr (Or.inl ⟨e, List.mem_of_find?_eq_some he, n, hn, rfl⟩)
  · split at h
    · rename_i r hr
      rw [List.mem_singleton] at h
      have hcovers : r.covers c.toNat = true := by simpa using List.find?_some hr
      exact Or.inr (Or.inr ⟨r, List.mem_of_find?_eq_some hr, c.toNat, hcovers, h⟩)
    · exact Or.inl (List.mem_singleton.1 h)

def beyondControls (expansions : List (Nat × List Nat)) (runs : List CaseRun) : Bool :=
  expansions.all (fun e => e.2.all (0x20 ≤ ·)) && runs.all (0x20 ≤ ·.target)

theorem ofNat_ne_feed {n : Nat} (h : 0x20 ≤ n) : Char.ofNat n ≠ '\n' := by
  intro e
  by_cases hv : n.isValidChar
  · rw [Char.ofNat, dif_pos hv] at e
    have hn : n = 10 := congrArg Char.toNat e
    omega
  · rw [Char.ofNat, dif_neg hv] at e
    exact absurd e (by decide)

theorem feed_not_mem_mapCase {expansions : List (Nat × List Nat)} {runs : List CaseRun} {c : Char}
    (ht : beyondControls expansions runs = true) (hc : c ≠ '\n') :
    '\n' ∉ mapCase expansions runs c := by
  intro h
  simp only [beyondControls, Bool.and_eq_true, List.all_eq_true, decide_eq_true_eq] at ht
  rcases mem_mapCase h with h | ⟨e, he, n, hn, h⟩ | ⟨r, hr, n, -, h⟩
  · exact hc h.symm
  · exact ofNat_ne_feed (ht.1 e he n hn) h.symm
  · exact ofNat_ne_feed (Nat.le_trans (ht.2 r hr) (Nat.le_add_right _ _)) h.symm

theorem forall_ascii {P : Char → Prop} (h : ∀ n < 128, P (Char.ofNat n)) {c : Char}
    (hc : c.toNat < 128) : P c := by
  rw [← Char.ofNat_toNat c]
  exact h c.toNat hc

def Text.isAscii (t : Text) : Bool := t.all (fun c => c.toNat < 128)

theorem toNat_lt_of_isAscii {t : Text} (h : t.isAscii = true) : ∀ c ∈ t, c.toNat < 128 :=
  fun c hc => of_decide_eq_true (List.all_eq_true.1 h c hc)

theorem toNat_lt_of_isAlphanum {c : Char} (h : c.isAlphanum = true) : c.toNat < 128 := by
  change (decide ('A'.val ≤ c.val ∧ c.val ≤ 'Z'.val) || ('a'.val ≤ c.val && c.val ≤ 'z'.val) ||
    ('0'.val ≤ c.val && c.val ≤ '9'.val)) = true at h
  simp only [Bool.or_eq_true, Bool.and_eq_true, decide_eq_true_eq, UInt32.le_iff_toNat_le] at h
  rcases h with (⟨_, h⟩ | ⟨_, h⟩) | ⟨_, h⟩ <;> exact Nat.lt_of_le_of_lt h (by decide)

theorem toNat_lt_of_isAlpha {c : Char} (h : c.isAlpha = true) : c.toNat < 128 :=
  toNat_lt_of_isAlphanum (by rw [Char.isAlphanum, h, Bool.true_or])

theorem feed_not_mem_upperChar {c : Char} (hc : c ≠ '\n') : '\n' ∉ upperChar c := by
  unfold upperChar
  split
  · rename_i hascii
    exact forall_ascii (P := fun d => d ≠ '\n' → '\n' ∉ [d.toUpper]) (by decide) hascii hc
  · exact feed_not_mem_mapCase (by decide) hc

theorem feed_not_mem_lowerChar {c : Char} (hc : c ≠ '\n') : '\n' ∉ lowerChar c := by
  unfold lowerChar
  split
  · rename_i hascii
    exact forall_ascii (P := fun d => d ≠ '\n' → '\n' ∉ [d.toLower]) (by decide) hascii hc
  · exact feed_not_mem_mapCase (by decide) hc

namespace Text

theorem feed_not_mem_capitalize : ∀ {t : Text}, '\n' ∉ t → '\n' ∉ capitalize t
  | [], h => h
  | c :: rest, h => by
    rw [List.mem_cons, not_or] at h
    rw [capitalize, List.mem_append, not_or]
    exact ⟨feed_not_mem_upperChar (fun e => h.1 e.symm), h.2⟩

theorem feed_not_mem_titleCase : ∀ {t : Text}, '\n' ∉ t → '\n' ∉ titleCase t
  | [], h => h
  | c :: rest, h => by
    rw [List.mem_cons, not_or] at h
    rw [titleCase, List.mem_append, not_or]
    refine ⟨feed_not_mem_upperChar (fun e => h.1 e.symm), fun hm => ?_⟩
    obtain ⟨d, hd, hm⟩ := List.mem_flatMap.1 hm
    exact feed_not_mem_lowerChar (fun e => h.2 (e ▸ hd)) hm

end Text

namespace Naming

/-- **A display name turned into one word has no line feed**, whatever the name holds. -/
theorem feed_not_mem_sanitize (name : Text) : '\n' ∉ sanitize name := by
  intro h
  obtain ⟨p, hp, h⟩ := List.mem_flatMap.1 h
  refine Text.feed_not_mem_titleCase (fun hm => ?_) h
  have hsep := (Text.of_mem_tokens hp _ hm).2
  exact absurd hsep (by decide)

end Naming
end ApiTypes
