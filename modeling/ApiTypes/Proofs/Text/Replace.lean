import ApiTypes.Text
import Mathlib.Data.List.Infix
/-!
# Replacing every occurrence

The scan that replaces a needle meets, one after the other, occurrences of the needle and characters
at which none starts (`Replaced`).  A text without the needle stays as it is (`replaceAll_eq_self`), and
one with it becomes shorter if the needle does (`length_replaceAll_lt`).  The result can hold the needle
all the same, where characters that were apart have come together.  What stands in the result has been
made of one stretch of the text, which begins and ends with it (`infix_replaceAll_iff`); so it is
enough to look at stretches that become a text, instead of texts that hold it.
-/
namespace ApiTypes
namespace Text

variable {needle new : Text}

/-! ## One scan -/

theorem replaceFrom_eq_drop : ∀ (t : Text) (skip : Nat),
    replaceFrom needle new skip t = replaceFrom needle new 0 (t.drop skip)
  | [], 0 => rfl
  | [], _ + 1 => rfl
  | _ :: _, 0 => rfl
  | _ :: rest, skip + 1 => replaceFrom_eq_drop rest skip

theorem replaceAll_append_self (hne : needle ≠ []) (t : Text) :
    replaceAll needle new (needle ++ t) = new ++ replaceAll needle new t := by
  obtain ⟨c, rest, rfl⟩ := List.exists_cons_of_ne_nil hne
  have hstarts : (c :: rest).isPrefixOf (c :: (rest ++ t)) = true :=
    List.isPrefixOf_iff_prefix.2 (List.prefix_append (c :: rest) t)
  rw [replaceAll, List.cons_append, replaceFrom, if_pos hstarts, replaceFrom_eq_drop,
    List.length_cons, Nat.add_sub_cancel, List.drop_left]
  rfl

theorem replaceAll_cons {c : Char} {t : Text} (h : ¬ needle <+: c :: t) :
    replaceAll needle new (c :: t) = c :: replaceAll needle new t := by
  rw [replaceAll, replaceFrom, if_neg (fun hc => h (List.isPrefixOf_iff_prefix.1 hc))]
  rfl

/-- A scan of one text gives another. -/
inductive Replaced (needle new : Text) : Text → Text → Prop where
  | nil : Replaced needle new [] []
  | found {t v : Text} (h : Replaced needle new t v) : Replaced needle new (needle ++ t) (new ++ v)
  | kept {c : Char} {t v : Text} (hc : ¬ needle <+: c :: t) (h : Replaced needle new t v) :
    Replaced needle new (c :: t) (c :: v)

theorem replaced_replaceAll (hne : needle ≠ []) (t : Text) :
    Replaced needle new t (replaceAll needle new t) := by
  induction hn : t.length using Nat.strong_induction_on generalizing t with
  | _ n ih =>
    cases t with
    | nil => exact .nil
    | cons c rest =>
      by_cases hc : needle <+: c :: rest
      · obtain ⟨t, ht⟩ := hc
        have hlt : t.length < n := by
          have hpos : 0 < needle.length := List.length_pos_of_ne_nil hne
          rw [← hn, ← ht, List.length_append]
          omega
        rw [← ht, replaceAll_append_self hne]
        exact (ih t.length hlt t rfl).found
      · rw [replaceAll_cons hc]
        exact (ih rest.length (by rw [← hn]; exact Nat.lt_succ_self _) rest rfl).kept hc

theorem replaced_iff (hne : needle ≠ []) {t v : Text} :
    Replaced needle new t v ↔ replaceAll needle new t = v := by
  refine ⟨fun h => ?_, fun h => h ▸ replaced_replaceAll hne t⟩
  induction h with
  | nil => rfl
  | found _ ih => rw [replaceAll_append_self hne, ih]
  | kept hc _ ih => rw [replaceAll_cons hc, ih]

/-! ## Texts without the needle -/

theorem replaceAll_eq_self {t : Text} (h : ¬ needle <:+: t) :
    replaceAll needle new t = t := by
  induction t with
  | nil => rfl
  | cons c rest ih =>
    rw [replaceAll_cons (fun hc => h hc.isInfix), ih (fun hrest => h (hrest.trans
      (List.suffix_cons c rest).isInfix))]

theorem Replaced.length_le (hlt : new.length < needle.length) {t v : Text}
    (h : Replaced needle new t v) : v.length ≤ t.length := by
  induction h with
  | nil => exact Nat.le_refl _
  | found _ ih =>
    rw [List.length_append, List.length_append]
    omega
  | kept _ _ ih => exact Nat.succ_le_succ ih

theorem Replaced.length_lt (hlt : new.length < needle.length) {t v : Text}
    (h : Replaced needle new t v) (hin : needle <:+: t) : v.length < t.length := by
  induction h with
  | nil =>
    rw [List.infix_nil.1 hin] at hlt
    exact absurd hlt (Nat.not_lt_zero _)
  | found h _ =>
    have hle := h.length_le hlt
    rw [List.length_append, List.length_append]
    omega
  | kept hc _ ih => exact Nat.succ_lt_succ (ih ((List.infix_cons_iff.1 hin).resolve_left hc))

theorem length_replaceAll_le (hlt : new.length < needle.length) (t : Text) :
    (replaceAll needle new t).length ≤ t.length :=
  (replaced_replaceAll (List.ne_nil_of_length_pos (Nat.zero_lt_of_lt hlt)) t).length_le hlt

/-- **A text that holds the needle becomes shorter**, if the needle does. -/
theorem length_replaceAll_lt (hlt : new.length < needle.length) {t : Text} (h : needle <:+: t) :
    (replaceAll needle new t).length < t.length :=
  (replaced_replaceAll (List.ne_nil_of_length_pos (Nat.zero_lt_of_lt hlt)) t).length_lt hlt h

/-! ## What stands in the result -/

/-- An end of one text is the beginning of another. -/
def Overlaps (a b : Text) : Prop := ∃ s, s ≠ [] ∧ s <:+ a ∧ s <+: b

theorem Overlaps.of_suffix {a b q : Text} (h : Overlaps q b) (hq : q <:+ a) : Overlaps a b := by
  obtain ⟨s, hs, hsq, hb⟩ := h
  exact ⟨s, hs, hsq.trans hq, hb⟩

/-- A text does not begin within `front`, nor does it end within `back`. -/
structure Clear (front back q : Text) : Prop where
  enters : ¬ Overlaps front q
  inside : ¬ q <:+: front
  leaves : ¬ Overlaps q back

/-- What becomes a text, and begins and ends with it. -/
structure Origin (needle new q u : Text) : Prop where
  replaced : replaceAll needle new u = q
  head?_eq : u.head? = q.head?
  getLast?_eq : u.getLast? = q.getLast?

namespace Replaced

theorem exists_behind {t v : Text} (h : Replaced needle new t v) : ∀ {a w : Text}, v = a ++ w →
    w ≠ [] → ¬ Overlaps new w → ∃ b u, t = b ++ u ∧ Replaced needle new u w ∧ u.head? = w.head? := by
  induction h with
  | nil =>
    intro a w hv hw _
    exact absurd (List.append_eq_nil_iff.1 hv.symm).2 hw
  | @found t v h ih =>
    intro a w hv hw hclear
    have hbehind : ∀ x, v = x ++ w →
        ∃ b u, needle ++ t = b ++ u ∧ Replaced needle new u w ∧ u.head? = w.head? := by
      intro x hx
      obtain ⟨b, u, rfl, hu, hhead⟩ := ih hx hw hclear
      exact ⟨needle ++ b, u, (List.append_assoc _ _ _).symm, hu, hhead⟩
    rcases List.append_eq_append_iff.1 hv with ⟨x, -, hx⟩ | ⟨x, hnew, rfl⟩
    · exact hbehind x hx
    · -- the part would begin within what the needle has become
      by_cases hx : x = []
      · subst hx
        exact hbehind [] rfl
      · exact absurd ⟨x, hx, hnew ▸ List.suffix_append a x, List.prefix_append x v⟩ hclear
  | @kept c t v hc h ih =>
    intro a w hv hw hclear
    cases a with
    | nil =>
      rw [List.nil_append] at hv
      subst hv
      exact ⟨[], c :: t, rfl, h.kept hc, rfl⟩
    | cons d a =>
      obtain ⟨rfl, hrest⟩ := List.cons.inj hv
      obtain ⟨b, u, rfl, hu, hhead⟩ := ih hrest hw hclear
      exact ⟨c :: b, u, rfl, hu, hhead⟩

theorem exists_front {t v : Text} (h : Replaced needle new t v) : ∀ {q b : Text}, v = q ++ b →
    q ≠ [] → ¬ Overlaps q new →
      ∃ u c, t = u ++ c ∧ Replaced needle new u q ∧ u.getLast? = q.getLast? := by
  induction h with
  | nil =>
    intro q b hv hq _
    exact absurd (List.append_eq_nil_iff.1 hv.symm).1 hq
  | @found t v h ih =>
    intro q b hv hq hclear
    rcases List.append_eq_append_iff.1 hv with ⟨x, rfl, hx⟩ | ⟨x, hnew, -⟩
    · have hxne : x ≠ [] := by
        rintro rfl
        rw [List.append_nil] at hq hclear
        exact hclear ⟨new, hq, List.suffix_rfl, List.prefix_rfl⟩
      obtain ⟨u, c, rfl, hu, hlast⟩ :=
        ih hx hxne (fun ho => hclear (ho.of_suffix (List.suffix_append new x)))
      refine ⟨needle ++ u, c, (List.append_assoc _ _ _).symm, hu.found, ?_⟩
      obtain ⟨y, hy⟩ := Option.ne_none_iff_exists'.1 (fun hn => hxne (List.getLast?_eq_none_iff.1 hn))
      rw [List.getLast?_append, List.getLast?_append, hlast, hy]
      rfl
    · -- the part would end within what the needle has become
      exact absurd ⟨q, hq, List.suffix_rfl, hnew ▸ List.prefix_append q x⟩ hclear
  | @kept c t v hc h ih =>
    intro q b hv hq hclear
    obtain ⟨d, q, rfl⟩ := List.exists_cons_of_ne_nil hq
    obtain ⟨rfl, hrest⟩ := List.cons.inj hv
    by_cases hq' : q = []
    · subst hq'
      have hsingle : ¬ needle <+: [c] := fun hp => hc (hp.trans (List.prefix_append [c] t))
      exact ⟨[c], t, rfl, Replaced.nil.kept hsingle, rfl⟩
    · obtain ⟨u, r, rfl, hu, hlast⟩ :=
        ih hrest hq' (fun ho => hclear (ho.of_suffix (List.suffix_cons c q)))
      have hkept : ¬ needle <+: c :: u :=
        fun hp => hc (hp.trans (List.prefix_append (c :: u) r))
      refine ⟨c :: u, r, rfl, hu.kept hkept, ?_⟩
      rw [List.getLast?_cons, List.getLast?_cons, hlast]

end Replaced

/-- **What stands in the result has been made of one stretch of the text**, if it is not cut within a
replacement. -/
theorem Clear.exists_origin (hne : needle ≠ []) {t q : Text} (hq : q ≠ []) (hclear : Clear new new q)
    (h : q <:+: replaceAll needle new t) : ∃ u, u <:+: t ∧ Origin needle new q u := by
  obtain ⟨a, b, hab⟩ := h
  have henters : ¬ Overlaps new (q ++ b) := by
    rintro ⟨s, hs, hsnew, hsq⟩
    rcases List.prefix_or_prefix_of_prefix hsq (List.prefix_append q b) with hsq | hqs
    · exact hclear.enters ⟨s, hs, hsnew, hsq⟩
    · exact hclear.inside (hqs.isInfix.trans hsnew.isInfix)
  obtain ⟨front, w, rfl, hw, hhead⟩ := (replaced_replaceAll hne t).exists_behind
    (hab.symm.trans (List.append_assoc a q b)) (List.append_ne_nil_of_left_ne_nil hq b) henters
  obtain ⟨u, back, rfl, hu, hlast⟩ := hw.exists_front rfl hq hclear.leaves
  have hune : u ≠ [] := by
    rintro rfl
    exact hq (List.getLast?_eq_none_iff.1 hlast.symm)
  rw [List.head?_append_of_ne_nil _ hune, List.head?_append_of_ne_nil _ hq] at hhead
  exact ⟨u, (List.prefix_append u back).isInfix.trans (List.suffix_append front _).isInfix,
    (replaced_iff hne).1 hu, hhead, hlast⟩

theorem replaceAll_append (hne : needle ≠ []) {a b : Text}
    (h : ∀ s r, s ≠ [] → r ≠ [] → s ++ r = needle → s <:+ a → ¬ r <+: b) :
    replaceAll needle new (a ++ b) = replaceAll needle new a ++ replaceAll needle new b := by
  have hscan : Replaced needle new a (replaceAll needle new a) := replaced_replaceAll hne a
  generalize replaceAll needle new a = v at hscan ⊢
  induction hscan with
  | nil => rfl
  | @found t v _ ih =>
    have hrest := ih (fun s r hs hr hsr hst => h s r hs hr hsr (hst.trans (List.suffix_append _ _)))
    rw [List.append_assoc, replaceAll_append_self hne, hrest, List.append_assoc]
  | @kept c t v hc _ ih =>
    have hrest := ih (fun s r hs hr hsr hst => h s r hs hr hsr (hst.trans (List.suffix_cons c t)))
    have hkept : ¬ needle <+: c :: (t ++ b) := by
      rintro ⟨r, hr⟩
      have hcut : needle ++ r = (c :: t) ++ b := hr
      rcases List.append_eq_append_iff.1 hcut with ⟨x, hx, -⟩ | ⟨x, hx, hb⟩
      · exact hc (hx ▸ List.prefix_append needle x)
      · -- the needle would start in front of the cut and end behind it
        by_cases hxnil : x = []
        · rw [hxnil, List.append_nil] at hx
          exact hc (hx ▸ List.prefix_rfl)
        · exact h (c :: t) x (List.cons_ne_nil c t) hxnil hx.symm List.suffix_rfl
            (hb ▸ List.prefix_append x r)
    rw [List.cons_append, replaceAll_cons hkept, hrest, List.cons_append]

/-! ## Needles that begin with a mark

If the first character of the needle does not come again in it, then occurrences never share a
character, and each of them is replaced. -/

section Marked

variable {m : Char} {rest : Text}

theorem Replaced.prefix_of_not_mem {u q : Text} (h : Replaced (m :: rest) new u q) :
    ∀ {p : Text}, p <+: u → m ∉ p → p <+: q := by
  induction h with
  | nil => exact fun hp _ => hp
  | @found t v _ _ =>
    intro p hp hm
    cases p with
    | nil => exact List.nil_prefix
    | cons c p =>
      obtain ⟨rfl, -⟩ := List.cons_prefix_cons.1 hp
      exact absurd List.mem_cons_self hm
  | @kept c t v _ _ ih =>
    intro p hp hm
    cases p with
    | nil => exact List.nil_prefix
    | cons d p =>
      obtain ⟨rfl, hpt⟩ := List.cons_prefix_cons.1 hp
      exact List.cons_prefix_cons.2 ⟨rfl, ih hpt (fun hd => hm (List.mem_cons_of_mem d hd))⟩

theorem replaceAll_of_not_mem {u : Text} (hm : m ∉ u) : replaceAll (m :: rest) new u = u :=
  replaceAll_eq_self (fun h => hm (h.subset List.mem_cons_self))

theorem Replaced.suffix_of_marked (hmark : m ∉ rest) {s r : Text} (hsr : s ++ r = rest)
    (hr : r ≠ []) {u q : Text} (h : Replaced (m :: rest) new u q) : m :: s <:+ u → m :: s <:+ q := by
  induction h with
  | nil => exact id
  | @found t v _ ih =>
    intro hs
    have hbehind : m :: s <:+ t → m :: s <:+ new ++ v :=
      fun hst => (ih hst).trans (List.suffix_append new v)
    obtain ⟨w, hw⟩ := hs
    rcases List.append_eq_append_iff.1 hw with ⟨x, hneedle, hx⟩ | ⟨x, -, ht⟩
    · cases x with
      | nil => exact hbehind (hx ▸ List.suffix_rfl)
      | cons c x =>
        obtain ⟨rfl, hsx⟩ : m = c ∧ s = x ++ t := List.cons.inj hx
        -- the mark stands in the needle, so at its front, and the needle is longer than the end
        cases w with
        | nil =>
          have hlength := congrArg List.length ((List.cons.inj hneedle).2.symm.trans hsr.symm)
          have hpos : 0 < r.length := List.length_pos_of_ne_nil hr
          rw [hsx, List.length_append, List.length_append] at hlength
          omega
        | cons d w =>
          obtain ⟨-, hw⟩ := List.cons.inj hneedle
          exact absurd (hw ▸ List.mem_append_right w List.mem_cons_self) hmark
    · exact hbehind (ht ▸ List.suffix_append x (m :: s))
  | @kept c t v _ ht ih =>
    intro hs
    rcases List.suffix_cons_iff.1 hs with hs | hs
    · obtain ⟨rfl, rfl⟩ := List.cons.inj hs
      have hms : m ∉ s := fun hm => hmark (hsr ▸ List.mem_append_left r hm)
      rw [← (replaced_iff (List.cons_ne_nil m rest)).1 ht, replaceAll_of_not_mem hms]
    · exact (ih hs).trans (List.suffix_cons c v)

/-- **A stretch that becomes a text leaves it in the result**, if no needle stands across an end of
it. -/
theorem Clear.infix_replaceAll (hmark : m ∉ rest) {t u q : Text}
    (hclear : Clear rest (m :: rest).dropLast q) (hu : u <:+: t)
    (h : replaceAll (m :: rest) new u = q) : q <:+: replaceAll (m :: rest) new t := by
  have hne : m :: rest ≠ [] := List.cons_ne_nil m rest
  have hscan : Replaced (m :: rest) new u q := (replaced_iff hne).2 h
  obtain ⟨a, b, rfl⟩ := hu
  have hfront : ∀ s r, s ≠ [] → r ≠ [] → s ++ r = m :: rest → s <:+ a → ¬ r <+: u ++ b := by
    intro s r hs hr hsr _ hru
    obtain ⟨c, s, rfl⟩ := List.exists_cons_of_ne_nil hs
    have hrest : s ++ r = rest := (List.cons.inj hsr).2
    have hend : r <:+ rest := hrest ▸ List.suffix_append s r
    have hm : m ∉ r := fun hm => hmark (hend.subset hm)
    rcases List.prefix_or_prefix_of_prefix hru (List.prefix_append u b) with hru | hur
    · exact hclear.enters ⟨r, hr, hend, hscan.prefix_of_not_mem hru hm⟩
    · rw [replaceAll_of_not_mem (fun hmu => hm (hur.subset hmu))] at h
      exact hclear.inside (h ▸ hur.isInfix.trans hend.isInfix)
  have hback : ∀ s r, s ≠ [] → r ≠ [] → s ++ r = m :: rest → s <:+ u → ¬ r <+: b := by
    intro s r hs hr hsr hsu _
    obtain ⟨c, s, rfl⟩ := List.exists_cons_of_ne_nil hs
    obtain ⟨rfl, hrest⟩ := List.cons.inj hsr
    have hbegin : c :: s <+: (c :: rest).dropLast := by
      rw [← hsr, List.dropLast_append_of_ne_nil hr]
      exact List.prefix_append _ _
    exact hclear.leaves ⟨c :: s, hs, hscan.suffix_of_marked hmark hrest hr hsu, hbegin⟩
  rw [List.append_assoc, replaceAll_append hne hfront, replaceAll_append hne hback, h]
  exact ⟨_, _, List.append_assoc _ _ _⟩

end Marked

/-- A needle whose first character does not come again in it. -/
def Marked (needle : Text) : Prop := ∃ m rest, needle = m :: rest ∧ m ∉ rest

theorem Marked.ne_nil (h : needle.Marked) : needle ≠ [] := by
  obtain ⟨m, rest, rfl, -⟩ := h
  exact List.cons_ne_nil m rest

/-- A text is cut neither within a needle nor within what the needle becomes. -/
structure Uncut (needle new q : Text) : Prop where
  ne_nil : q ≠ []
  byNeedle : Clear needle.tail needle.dropLast q
  byNew : Clear new new q

/-- **A text stands in the result just if some stretch becomes it**, and begins and ends with it. -/
theorem infix_replaceAll_iff (hmarked : needle.Marked) {t q : Text} (hq : Uncut needle new q) :
    q <:+: replaceAll needle new t ↔ ∃ u, u <:+: t ∧ Origin needle new q u := by
  refine ⟨hq.byNew.exists_origin hmarked.ne_nil hq.ne_nil, ?_⟩
  rintro ⟨u, hu, horigin⟩
  obtain ⟨m, rest, rfl, hmark⟩ := hmarked
  exact hq.byNeedle.infix_replaceAll hmark hu horigin.replaced

/-! ## Telling it by characters -/

theorem head_mem_beginning {s q : Text} {x : Char} (hs : s ≠ []) (h : s <+: q)
    (hx : q.head? = some x) : x ∈ s := by
  obtain ⟨r, rfl⟩ := h
  rw [List.head?_append_of_ne_nil s hs] at hx
  exact List.mem_of_head? hx

theorem last_mem_ending {s q : Text} {x : Char} (hs : s ≠ []) (h : s <:+ q)
    (hx : q.getLast? = some x) : x ∈ s := by
  obtain ⟨r, rfl⟩ := h
  rw [List.getLast?_append_of_ne_nil r hs] at hx
  exact List.mem_of_getLast? hx

theorem Clear.of_edges {front back q : Text} {x y : Char} (hx : q.head? = some x)
    (hy : q.getLast? = some y) (hfront : x ∉ front) (hback : y ∉ back) : Clear front back q where
  enters := fun ⟨_, hs, hsfront, hsq⟩ => hfront (hsfront.subset (head_mem_beginning hs hsq hx))
  inside h := hfront (h.subset (List.mem_of_head? hx))
  leaves := fun ⟨_, hs, hsq, hsback⟩ => hback (hsback.subset (last_mem_ending hs hsq hy))

theorem Clear.of_foreign {front back q : Text} {x y z : Char} (hfront : front.getLast? = some x)
    (hback : back.head? = some y) (hx : x ∉ q) (hy : y ∉ q) (hz : z ∈ q) (hzfront : z ∉ front) :
    Clear front back q where
  enters := fun ⟨_, hs, hsfront, hsq⟩ => hx (hsq.subset (last_mem_ending hs hsfront hfront))
  inside h := hzfront (h.subset hz)
  leaves := fun ⟨_, hs, hsq, hsback⟩ => hy (hsq.subset (head_mem_beginning hs hsback hback))

theorem Clear.nil {q : Text} (hq : q ≠ []) : Clear [] [] q where
  enters := fun ⟨_, hs, hsfront, _⟩ => hs (List.suffix_nil.1 hsfront)
  inside h := hq (List.infix_nil.1 h)
  leaves := fun ⟨_, hs, _, hsback⟩ => hs (List.prefix_nil.1 hsback)

/-! ## The characters of an origin -/

theorem Replaced.mem_or {t v : Text} (h : Replaced needle new t v) :
    (∀ c ∈ t, c ∈ v ∨ c ∈ needle) ∧ ∀ c ∈ v, c ∈ t ∨ c ∈ new := by
  induction h with
  | nil => exact ⟨nofun, nofun⟩
  | found _ ih =>
    obtain ⟨htext, hresult⟩ := ih
    constructor
    · intro c hc
      rcases List.mem_append.1 hc with hc | hc
      · exact Or.inr hc
      · exact (htext c hc).imp_left (List.mem_append_right _)
    · intro c hc
      rcases List.mem_append.1 hc with hc | hc
      · exact Or.inr hc
      · exact (hresult c hc).imp_left (List.mem_append_right _)
  | kept _ _ ih =>
    obtain ⟨htext, hresult⟩ := ih
    exact ⟨List.forall_mem_cons.2 ⟨Or.inl List.mem_cons_self, fun c hc =>
        (htext c hc).imp_left (List.mem_cons_of_mem _)⟩,
      List.forall_mem_cons.2 ⟨Or.inl List.mem_cons_self, fun c hc =>
        (hresult c hc).imp_left (List.mem_cons_of_mem _)⟩⟩

theorem Origin.mem_or {q u : Text} (hne : needle ≠ []) (h : Origin needle new q u) {c : Char}
    (hc : c ∈ u) : c ∈ q ∨ c ∈ needle :=
  ((replaced_iff hne).2 h.replaced).mem_or.1 c hc

theorem Origin.mem {q u : Text} (hne : needle ≠ []) (h : Origin needle new q u) {c : Char}
    (hc : c ∈ q) (hnew : c ∉ new) : c ∈ u :=
  (((replaced_iff hne).2 h.replaced).mem_or.2 c hc).resolve_right hnew

end Text
end ApiTypes
