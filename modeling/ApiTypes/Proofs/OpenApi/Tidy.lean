import ApiTypes.OpenApi
import ApiTypes.Proofs.Text.Replace
import Mathlib.Logic.Function.Iterate
/-!
# What tidying leaves

Each of the three replacements is made in one scan, so characters that a scan brings together are not
looked at again.  A pattern is left just if some stretch of the converter's output is tidied into it
(`infix_tidy_iff_tidied`), such as `exexport port ` into `export `.
-/
namespace ApiTypes

open Text (Origin Uncut Clear replaceAll)

namespace OpenApi

def patterns : List Text := [catchAll, nullableIntersection, exportWord]

theorem marked_catchAll : catchAll.Marked := ⟨'[', catchAll.tail, rfl, by decide⟩

theorem marked_nullableIntersection : nullableIntersection.Marked :=
  ⟨'&', nullableIntersection.tail, rfl, by decide⟩

theorem marked_exportWord : exportWord.Marked := ⟨'e', exportWord.tail, rfl, by decide⟩

/-! ## A second tidying -/

theorem length_nullableUnion_lt : nullableUnion.length < nullableIntersection.length := by decide

theorem length_nil_lt_catchAll : ([] : Text).length < catchAll.length := by decide

theorem length_nil_lt_exportWord : ([] : Text).length < exportWord.length := by decide

theorem tidy_eq_self {t : Text} (h : ∀ p ∈ patterns, ¬ p <:+: t) : tidy t = t := by
  obtain ⟨hcatchAll, hnullable, hexport⟩ : ¬ catchAll <:+: t ∧ ¬ nullableIntersection <:+: t ∧
      ¬ exportWord <:+: t := by simpa [patterns] using h
  rw [tidy, Text.replaceAll_eq_self hcatchAll, Text.replaceAll_eq_self hnullable,
    Text.replaceAll_eq_self hexport]

theorem length_tidy_lt {t p : Text} (hp : p ∈ patterns) (h : p <:+: t) :
    (tidy t).length < t.length := by
  by_contra hlong
  have hexport := Text.length_replaceAll_le length_nil_lt_exportWord
    (replaceAll nullableIntersection nullableUnion (replaceAll catchAll [] t))
  have hnullable := Text.length_replaceAll_le length_nullableUnion_lt (replaceAll catchAll [] t)
  have hcatchAll := Text.length_replaceAll_le length_nil_lt_catchAll t
  rw [tidy] at hlong
  -- no scan makes the text shorter, so each finds nothing and hands the text on
  have hnoCatchAll : ¬ catchAll <:+: t := by
    intro hin
    have hshorter := Text.length_replaceAll_lt length_nil_lt_catchAll hin
    omega
  rw [Text.replaceAll_eq_self hnoCatchAll] at hlong hexport hnullable
  have hnoNullable : ¬ nullableIntersection <:+: t := by
    intro hin
    have hshorter := Text.length_replaceAll_lt length_nullableUnion_lt hin
    omega
  rw [Text.replaceAll_eq_self hnoNullable] at hlong
  have hnoExport : ¬ exportWord <:+: t := fun hin =>
    hlong (Text.length_replaceAll_lt length_nil_lt_exportWord hin)
  have hnone : ∀ q ∈ patterns, ¬ q <:+: t := by
    simpa [patterns] using ⟨hnoCatchAll, hnoNullable, hnoExport⟩
  exact hnone p hp h

/-- **Tidying changes nothing just if none of the patterns is there.** -/
theorem tidy_eq_self_iff {t : Text} : tidy t = t ↔ ∀ p ∈ patterns, ¬ p <:+: t := by
  refine ⟨fun hsame p hp h => ?_, tidy_eq_self⟩
  have hshorter := length_tidy_lt hp h
  rw [hsame] at hshorter
  exact Nat.lt_irrefl _ hshorter

/-- Tidied as often as it has characters, a text holds no pattern any more. -/
theorem iterate_tidy : ∀ (n : Nat) (t : Text), t.length ≤ n → ∀ p ∈ patterns, ¬ p <:+: tidy^[n] t
  | n, t, hn, p, hp => by
    by_cases hnone : ∀ q ∈ patterns, ¬ q <:+: t
    · rw [Function.iterate_fixed (tidy_eq_self hnone)]
      exact hnone p hp
    · push Not at hnone
      obtain ⟨q, hq, hin⟩ := hnone
      have hshorter := length_tidy_lt hq hin
      cases n with
      | zero => omega
      | succ n =>
        rw [Function.iterate_succ_apply]
        exact iterate_tidy n (tidy t) (by omega) p hp

/-! ## What is left -/

/-- A stretch and the two texts that it becomes on its way to a third. -/
def Tidied (p u : Text) : Prop :=
  ∃ v w, Origin catchAll [] v u ∧ Origin nullableIntersection nullableUnion w v ∧
    Origin exportWord [] p w

theorem Tidied.tidy_eq {p u : Text} (h : Tidied p u) : tidy u = p := by
  obtain ⟨v, w, hv, hw, hp⟩ := h
  rw [tidy, hv.replaced, hw.replaced, hp.replaced]

theorem uncut_of_edges {needle new q : Text} {x y : Char} (hx : q.head? = some x)
    (hy : q.getLast? = some y) (hneedle : x ∉ needle.tail ∧ y ∉ needle.dropLast)
    (hnew : x ∉ new ∧ y ∉ new) : Uncut needle new q where
  ne_nil := by
    rintro rfl
    cases hx
  byNeedle := .of_edges hx hy hneedle.1 hneedle.2
  byNew := .of_edges hx hy hnew.1 hnew.2

theorem uncut_of_ne_exportWord {p needle new q : Text} (hp : p ∈ patterns) (hword : p ≠ exportWord)
    (hneedle : needle ∈ patterns) (hnew : new = [] ∨ new = nullableUnion)
    (hhead : q.head? = p.head?) (hlast : q.getLast? = p.getLast?) : Uncut needle new q := by
  obtain ⟨x, y, hx, hy, hedges, hunion⟩ : ∃ x y, p.head? = some x ∧ p.getLast? = some y ∧
      (∀ n ∈ patterns, x ∉ n.tail ∧ y ∉ n.dropLast) ∧ x ∉ nullableUnion ∧ y ∉ nullableUnion := by
    simp only [patterns, List.mem_cons, List.not_mem_nil, or_false] at hp
    rcases hp with rfl | rfl | rfl
    · exact ⟨'[', ';', rfl, rfl, by decide⟩
    · exact ⟨'&', ')', rfl, rfl, by decide⟩
    · exact absurd rfl hword
  refine uncut_of_edges (hhead.trans hx) (hlast.trans hy) (hedges needle hneedle) ?_
  rcases hnew with rfl | rfl
  · exact ⟨List.not_mem_nil, List.not_mem_nil⟩
  · exact hunion

theorem uncut_exportWord {p : Text} (hp : p ∈ patterns) : Uncut exportWord [] p := by
  by_cases hword : p = exportWord
  · subst hword
    exact uncut_of_edges (x := 'e') (y := ' ') rfl rfl (by decide) (by decide)
  · exact uncut_of_ne_exportWord hp hword (by simp [patterns]) (Or.inl rfl) rfl rfl

theorem uncut_nullableIntersection {p w : Text} (hp : p ∈ patterns) (h : Origin exportWord [] p w) :
    Uncut nullableIntersection nullableUnion w := by
  by_cases hword : p = exportWord
  · subst hword
    have hmem : ∀ c ∈ w, c ∈ exportWord := fun c hc =>
      (h.mem_or marked_exportWord.ne_nil hc).elim id id
    have hx : 'x' ∈ w := h.mem marked_exportWord.ne_nil (by decide) (by decide)
    have hforeign : ∀ c, c ∉ exportWord → c ∉ w := fun c hc hcw => hc (hmem c hcw)
    exact ⟨List.ne_nil_of_mem hx,
      .of_foreign (x := ')') (y := '&') rfl rfl (hforeign _ (by decide)) (hforeign _ (by decide)) hx
        (by decide),
      .of_foreign (x := 'l') (y := '|') rfl rfl (hforeign _ (by decide)) (hforeign _ (by decide)) hx
        (by decide)⟩
  · exact uncut_of_ne_exportWord hp hword (by simp [patterns]) (Or.inr rfl) h.head?_eq h.getLast?_eq

theorem uncut_catchAll {p w v : Text} (hp : p ∈ patterns) (hw : Origin exportWord [] p w)
    (h : Origin nullableIntersection nullableUnion w v) : Uncut catchAll [] v := by
  by_cases hword : p = exportWord
  · subst hword
    have hmem : ∀ c ∈ v, c ∈ exportWord ∨ c ∈ nullableIntersection := fun c hc =>
      (h.mem_or marked_nullableIntersection.ne_nil hc).imp_left
        (fun hcw => (hw.mem_or marked_exportWord.ne_nil hcw).elim id id)
    have hx : 'x' ∈ v := h.mem marked_nullableIntersection.ne_nil
      (hw.mem marked_exportWord.ne_nil (by decide) (by decide)) (by decide)
    have hforeign : ∀ c, c ∉ exportWord → c ∉ nullableIntersection → c ∉ v :=
      fun c hc hc' hcv => (hmem c hcv).elim hc hc'
    exact ⟨List.ne_nil_of_mem hx,
      .of_foreign (x := ';') (y := '[') rfl rfl (hforeign _ (by decide) (by decide))
        (hforeign _ (by decide) (by decide)) hx (by decide),
      .nil (List.ne_nil_of_mem hx)⟩
  · exact uncut_of_ne_exportWord hp hword (by simp [patterns]) (Or.inl rfl)
      (h.head?_eq.trans hw.head?_eq) (h.getLast?_eq.trans hw.getLast?_eq)

/-- **A pattern is left just if a stretch goes through the three scans to it.** -/
theorem infix_tidy_iff_tidied {p : Text} (hp : p ∈ patterns) (t : Text) :
    p <:+: tidy t ↔ ∃ u, u <:+: t ∧ Tidied p u := by
  have hexport := Text.infix_replaceAll_iff marked_exportWord (uncut_exportWord hp)
    (t := replaceAll nullableIntersection nullableUnion (replaceAll catchAll [] t))
  constructor
  · intro h
    obtain ⟨w, hin, hw⟩ := hexport.1 h
    obtain ⟨v, hin, hv⟩ := (Text.infix_replaceAll_iff marked_nullableIntersection
      (uncut_nullableIntersection hp hw)).1 hin
    obtain ⟨u, hin, hu⟩ := (Text.infix_replaceAll_iff marked_catchAll
      (uncut_catchAll hp hw hv)).1 hin
    exact ⟨u, hin, v, w, hu, hv, hw⟩
  · rintro ⟨u, hin, v, w, hu, hv, hw⟩
    have hin := (Text.infix_replaceAll_iff marked_catchAll (uncut_catchAll hp hw hv)).2 ⟨u, hin, hu⟩
    have hin := (Text.infix_replaceAll_iff marked_nullableIntersection
      (uncut_nullableIntersection hp hw)).2 ⟨v, hin, hv⟩
    exact hexport.2 ⟨w, hin, hw⟩

theorem Tidied.head?_eq {p u : Text} (h : Tidied p u) : u.head? = p.head? := by
  obtain ⟨v, w, hv, hw, hp⟩ := h
  rw [hv.head?_eq, hw.head?_eq, hp.head?_eq]

theorem Tidied.getLast?_eq {p u : Text} (h : Tidied p u) : u.getLast? = p.getLast? := by
  obtain ⟨v, w, hv, hw, hp⟩ := h
  rw [hv.getLast?_eq, hw.getLast?_eq, hp.getLast?_eq]

theorem length_lt_of_tidy_mem {u : Text} (h : tidy u ∈ patterns) : (tidy u).length < u.length := by
  by_cases hnone : ∀ q ∈ patterns, ¬ q <:+: u
  · have hself : tidy u <:+: u := by rw [tidy_eq_self hnone]
    exact absurd hself (hnone _ h)
  · push Not at hnone
    obtain ⟨q, hq, hin⟩ := hnone
    exact length_tidy_lt hq hin

/-- **Tidying leaves a pattern just where a longer stretch is tidied into it**, from its first
character to its last.  Where it leaves none, a second tidying changes nothing, and else it makes the
text shorter; so tidying again and again ends with none. -/
theorem left_by_tidying (t : Text) :
    (∀ p ∈ patterns, p <:+: tidy t ↔
      ∃ u, u <:+: t ∧ tidy u = p ∧ p.length < u.length ∧ u.head? = p.head? ∧
        u.getLast? = p.getLast?) ∧
    (tidy (tidy t) = tidy t ↔ ∀ p ∈ patterns, ¬ p <:+: tidy t) ∧
    ∀ p ∈ patterns, ¬ p <:+: tidy^[t.length] t := by
  refine ⟨fun p hp => ?_, tidy_eq_self_iff, iterate_tidy t.length t (Nat.le_refl _)⟩
  constructor
  · intro h
    obtain ⟨u, hu, htidied⟩ := (infix_tidy_iff_tidied hp t).1 h
    have hlonger : p.length < u.length := by
      rw [← htidied.tidy_eq] at hp ⊢
      exact length_lt_of_tidy_mem hp
    exact ⟨u, hu, htidied.tidy_eq, hlonger, htidied.head?_eq, htidied.getLast?_eq⟩
  · rintro ⟨u, hu, rfl, -⟩
    obtain ⟨s, hs, htidied⟩ := (infix_tidy_iff_tidied hp u).1 List.infix_rfl
    exact (infix_tidy_iff_tidied hp t).2 ⟨s, hs.trans hu, htidied⟩

def nestedIntersection : Text :=
  "type B = C & (\x7b\n        \n    \x7d & (\x7b\n        \n    \x7d | null));"

def nestedStretch : Text :=
  "& (\x7b\n        \n    \x7d & (\x7b\n        \n    \x7d | null))"

theorem left_by_tidying_nested :
    nullableIntersection ∈ patterns ∧
    nullableIntersection <:+: tidy nestedIntersection ∧
    tidy (tidy nestedIntersection) ≠ tidy nestedIntersection ∧
    ¬ nullableIntersection <:+: tidy^[nestedIntersection.length] nestedIntersection := by
  have hpattern : nullableIntersection ∈ patterns := by simp [patterns]
  have hstretch : nestedStretch <:+: nestedIntersection ∧ tidy nestedStretch = nullableIntersection ∧
      nullableIntersection.length < nestedStretch.length ∧
      nestedStretch.head? = nullableIntersection.head? ∧
      nestedStretch.getLast? = nullableIntersection.getLast? := by
    decide
  obtain ⟨hleft, hagain, hend⟩ := left_by_tidying nestedIntersection
  have hin : nullableIntersection <:+: tidy nestedIntersection :=
    (hleft nullableIntersection hpattern).2 ⟨nestedStretch, hstretch⟩
  exact ⟨hpattern, hin, fun hsame => hagain.1 hsame _ hpattern hin, hend _ hpattern⟩

/-- **One tidying is not enough**: each of the patterns can be left. -/
theorem not_complete_tidying :
    nullableIntersection <:+: tidy nestedIntersection ∧
    catchAll <:+: tidy "[key: export string]: any;" ∧
    exportWord <:+: tidy "exexport port type A = number;" ∧
    tidy (tidy nestedIntersection) ≠ tidy nestedIntersection := by
  decide

end OpenApi
end ApiTypes
