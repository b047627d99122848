import ApiTypes.Proofs.Text.Lines
import ApiTypes.Registry
/-!
# Telling display names apart by their type names

The parts of a display name are run together without a mark between them.  In ASCII the mark is the
capital that each part gets in front: behind it no capital is left, so where every part starts with a
letter the parts can be read back from the type name, all but the case of their letters
(`sanitize_eq_iff`).  So two structures of a section share a type name just if their display names
have the same parts up to case (`structureName_eq_iff_of_lettered`).
-/
namespace ApiTypes

/-! ## Blocks that start with a mark -/

/-- A block starts with a mark and holds no other one. -/
def StartsMarked {α : Type} (isMark : α → Bool) (block : List α) : Prop :=
  ∃ c rest, block = c :: rest ∧ isMark c = true ∧ ∀ d ∈ rest, isMark d = false

theorem takeWhile_flatten_of_marked {α : Type} {isMark : α → Bool} : ∀ {blocks : List (List α)},
    (∀ b ∈ blocks, StartsMarked isMark b) → blocks.flatten.takeWhile (fun c => !isMark c) = []
  | [], _ => rfl
  | b :: blocks, h => by
    obtain ⟨c, rest, rfl, hc, -⟩ := h b List.mem_cons_self
    simp [hc]

/-- **Blocks that are run together are told apart by their marks.** -/
theorem eq_of_flatten_eq {α : Type} {isMark : α → Bool} : ∀ {as bs : List (List α)},
    (∀ a ∈ as, StartsMarked isMark a) → (∀ b ∈ bs, StartsMarked isMark b) →
      as.flatten = bs.flatten → as = bs
  | [], [], _, _, _ => rfl
  | [], b :: bs, _, hb, h => by
    obtain ⟨c, rest, rfl, -, -⟩ := hb b List.mem_cons_self
    cases h
  | a :: as, [], ha, _, h => by
    obtain ⟨c, rest, rfl, -, -⟩ := ha a List.mem_cons_self
    cases h
  | a :: as, b :: bs, ha, hb, h => by
    obtain ⟨c, rest, rfl, -, hrest⟩ := ha a List.mem_cons_self
    obtain ⟨d, rest', rfl, -, hrest'⟩ := hb b List.mem_cons_self
    have has : ∀ a ∈ as, StartsMarked isMark a := fun a hm => ha a (List.mem_cons_of_mem _ hm)
    have hbs : ∀ b ∈ bs, StartsMarked isMark b := fun b hm => hb b (List.mem_cons_of_mem _ hm)
    rw [List.flatten_cons, List.flatten_cons, List.cons_append, List.cons_append] at h
    obtain ⟨hfirst, htail⟩ := List.cons.inj h
    -- what stands in front of the next mark is the same on both sides
    have hunmarked : ∀ {r : List α}, (∀ e ∈ r, isMark e = false) →
        ∀ e ∈ r, (fun e => !isMark e) e = true := fun hr e he => by simp [hr e he]
    have hinner := congrArg (List.takeWhile (fun e => !isMark e)) htail
    rw [List.takeWhile_append_of_pos (hunmarked hrest), takeWhile_flatten_of_marked has,
      List.takeWhile_append_of_pos (hunmarked hrest'), takeWhile_flatten_of_marked hbs,
      List.append_nil, List.append_nil] at hinner
    subst hfirst hinner
    rw [eq_of_flatten_eq has hbs (List.append_cancel_left htail)]

/-! ## Words in ASCII -/

namespace Text

/-- A word of ASCII characters that starts with a letter. -/
def IsWord (p : Text) : Prop :=
  (∀ c ∈ p, c.toNat < 128) ∧ p.head?.any Char.isAlpha = true

theorem titleCase_cons {c : Char} {rest : Text} (h : ∀ d ∈ c :: rest, d.toNat < 128) :
    titleCase (c :: rest) = c.toUpper :: rest.map Char.toLower := by
  have hlower : ∀ d ∈ rest, lowerChar d = [d.toLower] := fun d hd => by
    rw [lowerChar, if_pos (h d (List.mem_cons_of_mem c hd))]
  rw [titleCase, upperChar, if_pos (h c List.mem_cons_self), lower, List.flatMap_congr hlower,
    ← List.map_eq_flatMap]
  rfl

theorem IsWord.exists_cons {p : Text} (h : p.IsWord) : ∃ c rest, p = c :: rest ∧
    c.isAlpha = true ∧ titleCase p = c.toUpper :: rest.map Char.toLower := by
  obtain ⟨hascii, hhead⟩ := h
  cases p with
  | nil => cases hhead
  | cons c rest => exact ⟨c, rest, rfl, hhead, titleCase_cons hascii⟩

theorem IsWord.startsMarked_titleCase {p : Text} (h : p.IsWord) :
    StartsMarked Char.isUpper (titleCase p) := by
  obtain ⟨c, rest, rfl, hc, htitle⟩ := h.exists_cons
  have hupper := forall_ascii (P := fun c => c.isAlpha = true → c.toUpper.isUpper = true)
    (by decide) (h.1 c List.mem_cons_self) hc
  refine ⟨c.toUpper, rest.map Char.toLower, htitle, hupper, fun d hd => ?_⟩
  obtain ⟨e, he, rfl⟩ := List.mem_map.1 hd
  exact forall_ascii (P := fun c => c.toLower.isUpper = false) (by decide)
    (h.1 e (List.mem_cons_of_mem c he))

theorem IsWord.titleCase_eq_iff {p q : Text} (hp : p.IsWord) (hq : q.IsWord) :
    titleCase p = titleCase q ↔ p.map Char.toLower = q.map Char.toLower := by
  obtain ⟨c, rest, rfl, -, hptitle⟩ := hp.exists_cons
  obtain ⟨d, rest', rfl, -, hqtitle⟩ := hq.exists_cons
  have hc : c.toNat < 128 := hp.1 c List.mem_cons_self
  have hd : d.toNat < 128 := hq.1 d List.mem_cons_self
  have hlow : ∀ {c : Char}, c.toNat < 128 → c.toUpper.toLower = c.toLower :=
    forall_ascii (P := fun c => c.toUpper.toLower = c.toLower) (by decide)
  have hup : ∀ {c : Char}, c.toNat < 128 → c.toLower.toUpper = c.toUpper :=
    forall_ascii (P := fun c => c.toLower.toUpper = c.toUpper) (by decide)
  rw [hptitle, hqtitle, List.map_cons, List.map_cons, List.cons.injEq, List.cons.injEq]
  refine and_congr_left (fun _ => ⟨fun h => ?_, fun h => ?_⟩)
  · rw [← hlow hc, ← hlow hd, h]
  · rw [← hup hc, ← hup hd, h]

end Text

/-! ## Display names -/

namespace Naming

theorem isDropped_of_isSeparator {c : Char} (h : isSeparator c = true) : isDropped c = false := by
  refine Bool.eq_false_iff.2 (fun hc => ?_)
  rw [isDropped, Bool.or_eq_true, decide_eq_true_eq, decide_eq_true_eq] at hc
  rcases hc with rfl | rfl <;> exact absurd h (by decide)

theorem parts_append {c : Char} (h : isSeparator c = true) (a b : Text) :
    parts (a ++ c :: b) = parts a ++ parts b := by
  have hkeep : (!isDropped c) = true := by rw [isDropped_of_isSeparator h]; rfl
  rw [parts, List.filter_append, List.filter_cons_of_pos (p := fun c => !isDropped c) hkeep]
  exact Text.tokens_append_sep isSeparator h _ _

theorem sanitize_append {c : Char} (h : isSeparator c = true) (a b : Text) :
    sanitize (a ++ c :: b) = sanitize a ++ sanitize b := by
  rw [sanitize, parts_append h, List.flatMap_append]
  rfl

def foldedParts (name : Text) : List Text := (parts name).map (List.map Char.toLower)

/-- A display name in ASCII, each part of which starts with a letter. -/
structure IsLettered (name : Text) : Prop where
  ascii : ∀ c ∈ name, c.toNat < 128
  initial : ∀ p ∈ parts name, p.head?.any Char.isAlpha = true

theorem isLettered_iff {name : Text} : IsLettered name ↔
    (name.all (fun c => c.toNat < 128) &&
      (parts name).all (fun p => p.head?.any Char.isAlpha)) = true := by
  rw [Bool.and_eq_true, List.all_eq_true, List.all_eq_true]
  exact ⟨fun h => ⟨fun c hc => decide_eq_true (h.ascii c hc), h.initial⟩,
    fun h => ⟨fun c hc => of_decide_eq_true (h.1 c hc), h.2⟩⟩

instance (name : Text) : Decidable (IsLettered name) := decidable_of_iff' _ isLettered_iff

theorem IsLettered.isWord {name : Text} (h : IsLettered name) : ∀ p ∈ parts name, p.IsWord := by
  intro p hp
  refine ⟨fun c hc => ?_, h.initial p hp⟩
  have hkept := (Text.of_mem_tokens hp c hc).1
  exact h.ascii c (List.mem_filter.1 hkept).1

theorem map_titleCase_eq_iff : ∀ {ps qs : List Text}, (∀ p ∈ ps, p.IsWord) → (∀ q ∈ qs, q.IsWord) →
    (ps.map Text.titleCase = qs.map Text.titleCase ↔
      ps.map (List.map Char.toLower) = qs.map (List.map Char.toLower))
  | [], qs, _, _ => by cases qs <;> simp
  | p :: ps, [], _, _ => by simp
  | p :: ps, q :: qs, hp, hq => by
    obtain ⟨hpword, hps⟩ := List.forall_mem_cons.1 hp
    obtain ⟨hqword, hqs⟩ := List.forall_mem_cons.1 hq
    rw [List.map_cons, List.map_cons, List.map_cons, List.map_cons, List.cons.injEq, List.cons.injEq,
      hpword.titleCase_eq_iff hqword, map_titleCase_eq_iff hps hqs]

/-- **Display names become one word just if their parts differ in case alone.** -/
theorem sanitize_eq_iff {a b : Text} (ha : IsLettered a) (hb : IsLettered b) :
    sanitize a = sanitize b ↔ foldedParts a = foldedParts b := by
  have hmarked : ∀ {name : Text}, IsLettered name →
      ∀ block ∈ (parts name).map Text.titleCase, StartsMarked Char.isUpper block := by
    intro name h block hblock
    obtain ⟨p, hp, rfl⟩ := List.mem_map.1 hblock
    exact (h.isWord p hp).startsMarked_titleCase
  rw [foldedParts, foldedParts, ← map_titleCase_eq_iff ha.isWord hb.isWord, sanitize, sanitize,
    List.flatMap_def, List.flatMap_def]
  exact ⟨eq_of_flatten_eq (hmarked ha) (hmarked hb), congrArg List.flatten⟩

/-- **Two structures share a type name just if the parts of their display names differ in case
alone**, and so a section takes them for one. -/
theorem structureName_eq_iff_of_lettered (stem : Text) (s t : Structure) (hs : IsLettered s.name)
    (ht : IsLettered t.name) :
    (structureName stem s = structureName stem t ↔ foldedParts s.name = foldedParts t.name) ∧
    ∀ r : Registry, r.contains (structureName stem t) = false →
      (((r.register (structureName stem s)).2.register (structureName stem t)).1 = false ↔
        foldedParts s.name = foldedParts t.name) := by
  have hname : structureName stem s = structureName stem t ↔
      foldedParts s.name = foldedParts t.name := by
    rw [structureName, structureName, List.append_cancel_left_eq, sanitize_eq_iff hs ht]
  refine ⟨hname, fun r hr => ?_⟩
  rw [Registry.isNew_register, Registry.contains_register, hr, Bool.or_false, Bool.not_eq_false',
    beq_iff_eq, hname]

def spelledTwice : Structure × Structure :=
  (⟨"1", "Drugs & cRIMES, log2", none, none, none⟩,
    ⟨"2", "_drugs-Crimes\tLOG2", none, none, none⟩)

theorem structureName_eq_iff_of_lettered_spellings :
    (IsLettered spelledTwice.1.name ∧ IsLettered spelledTwice.2.name) ∧
    structureName "User" spelledTwice.1 = structureName "User" spelledTwice.2 ∧
    ((Registry.empty.register (structureName "User" spelledTwice.1)).2.register
      (structureName "User" spelledTwice.2)).1 = false ∧
    structureName "User" ⟨"1", "item set", none, none, none⟩ ≠
      structureName "User" ⟨"2", "itemset", none, none, none⟩ := by
  have hlettered : IsLettered spelledTwice.1.name ∧ IsLettered spelledTwice.2.name := by decide
  have hfolded : foldedParts spelledTwice.1.name = foldedParts spelledTwice.2.name := by decide
  obtain ⟨hname, hregistry⟩ := structureName_eq_iff_of_lettered "User" spelledTwice.1 spelledTwice.2
    hlettered.1 hlettered.2
  refine ⟨hlettered, hname.2 hfolded,
    (hregistry .empty (Registry.contains_empty _)).2 hfolded, fun h => ?_⟩
  have hparts := (structureName_eq_iff_of_lettered "User" ⟨"1", "item set", none, none, none⟩
    ⟨"2", "itemset", none, none, none⟩ (by decide) (by decide)).1.1 h
  exact absurd hparts (by decide)

end Naming
end ApiTypes
