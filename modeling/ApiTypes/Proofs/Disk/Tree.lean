import ApiTypes.Disk
import ApiTypes.Proofs.Attempt
/-!
# Disks that are trees

What stands somewhere on a disk stands in a directory (`IsTree`).  So where nothing is, there is
nothing below, and what is put there can be taken away again without a trace (`remove_put`).  A walk
goes where it went as long as directories stay what they are and nothing goes away (`walk_mono`).
-/
namespace ApiTypes
namespace Disk

variable {d m : Disk} {place other : Place} {entry : Entry} {name : Text}

/-- Everything stands in a directory, and relative paths start from one. -/
structure IsTree (d : Disk) : Prop where
  home : d.entry? d.home = some .directory
  above : ∀ {place name entry}, d.entry? (place ++ [name]) = some entry →
    d.entry? place = some .directory

/-! ## What is at a place -/

theorem entry?_of_ne_nil (d : Disk) (h : place ≠ []) : d.entry? place = lookup place d.entries := by
  cases place with
  | nil => exact absurd rfl h
  | cons name rest => rfl

theorem ne_nil_of_entry? (h : d.entry? place ≠ some .directory) : place ≠ [] := by
  rintro rfl
  exact h rfl

theorem entry?_put_same (d : Disk) (entry : Entry) (h : place ≠ []) :
    Disk.entry? (d.put place entry) place = some entry := by
  rw [entry?_of_ne_nil _ h]
  exact lookup_insert_same place entry d.entries

theorem entry?_put_other (d : Disk) (entry : Entry) (h : other ≠ place) :
    Disk.entry? (d.put place entry) other = d.entry? other := by
  cases other with
  | nil => rfl
  | cons name rest => exact lookup_insert_other entry h d.entries

theorem entry?_put (d : Disk) (place : Place) (entry : Entry) (other : Place) :
    Disk.entry? (d.put place entry) other = d.entry? other ∨
      other = place ∧ Disk.entry? (d.put place entry) other = some entry := by
  by_cases h : other = place
  · subst h
    by_cases hnil : other = []
    · subst hnil
      exact Or.inl rfl
    · exact Or.inr ⟨rfl, entry?_put_same d entry hnil⟩
  · exact Or.inl (entry?_put_other d entry h)

theorem lookup_eq_none_iff : ∀ es : List (Place × Entry),
    lookup place es = none ↔ ∀ e ∈ es, e.1 ≠ place
  | [] => by simp [lookup]
  | (p, e) :: rest => by
    by_cases h : p = place
    · simp [lookup, h]
    · simp [lookup, h, lookup_eq_none_iff rest]

theorem insert_of_lookup_eq_none : ∀ {es : List (Place × Entry)},
    lookup place es = none → insert place entry es = es ++ [(place, entry)]
  | [], _ => rfl
  | (p, e) :: rest, h => by
    by_cases hp : p = place
    · rw [lookup, if_pos hp] at h
      cases h
    · rw [lookup, if_neg hp] at h
      rw [insert, if_neg hp, insert_of_lookup_eq_none h, List.cons_append]

theorem insert_insert (place : Place) (first second : Entry) : ∀ es : List (Place × Entry),
    insert place second (insert place first es) = insert place second es
  | [] => by simp [insert]
  | (p, e) :: rest => by
    by_cases h : p = place
    · simp [insert, h]
    · simp [insert, h, insert_insert place first second rest]

theorem put_put (d : Disk) (place : Place) (first second : Entry) :
    (d.put place first).put place second = d.put place second := by
  rw [put, put, put, insert_insert]

/-! ## Trees -/

theorem isTree_of_entries (hhome : d.entry? d.home = some .directory)
    (h : ∀ e ∈ d.entries, d.entry? e.1.dropLast = some .directory) : d.IsTree := by
  refine ⟨hhome, fun {place name entry} hentry => ?_⟩
  rw [entry?_of_ne_nil d (by simp)] at hentry
  have hmem : ∃ e ∈ d.entries, e.1 = place ++ [name] := by
    refine Decidable.by_contra (fun hnone => ?_)
    rw [(lookup_eq_none_iff _).2 (fun e he hplace => hnone ⟨e, he, hplace⟩)] at hentry
    cases hentry
  obtain ⟨e, he, hplace⟩ := hmem
  have hparent := h e he
  rwa [hplace, List.dropLast_concat] at hparent

namespace IsTree

theorem entry?_ne_none_of_append (htree : d.IsTree) (place : Place) : ∀ rest : Place,
    d.entry? (place ++ rest) ≠ none → d.entry? place ≠ none := by
  intro rest
  -- the names are taken away from the end, since the directory is above the last one
  induction h : rest.length generalizing rest with
  | zero =>
    rw [List.length_eq_zero_iff.1 h, List.append_nil]
    exact id
  | succ n ih =>
    intro hrest
    have hnil : rest ≠ [] := by
      rintro rfl
      cases h
    rw [← List.dropLast_concat_getLast hnil, ← List.append_assoc] at hrest
    obtain ⟨entry, hentry⟩ := Option.ne_none_iff_exists'.1 hrest
    refine ih rest.dropLast (by simp [h]) ?_
    rw [htree.above hentry]
    exact nofun

theorem put (htree : d.IsTree) (hparent : d.entry? place = some .directory)
    (hplace : d.entry? (place ++ [name]) ≠ some .directory) (entry : Entry) :
    (d.put (place ++ [name]) entry).IsTree := by
  have hdirectory : ∀ other, d.entry? other = some .directory →
      Disk.entry? (d.put (place ++ [name]) entry) other = some .directory := by
    intro other hother
    have hne : other ≠ place ++ [name] := by
      rintro rfl
      exact hplace hother
    rw [entry?_put_other d entry hne, hother]
  refine ⟨hdirectory _ htree.home, fun {other other' entry'} hentry => ?_⟩
  rcases entry?_put d (place ++ [name]) entry (other ++ [other']) with h | ⟨h, _⟩
  · exact hdirectory _ (htree.above (h ▸ hentry))
  · rw [(List.append_inj' h rfl).1]
    exact hdirectory _ hparent

theorem remove_eq_self (htree : d.IsTree) (hplace : d.entry? place = none) : d.remove place = d := by
  have hnil : place ≠ [] := ne_nil_of_entry? (by rw [hplace]; exact nofun)
  have hkeep : d.entries.filter (fun e => !place.isPrefixOf e.1) = d.entries := by
    refine List.filter_eq_self.2 (fun e he => ?_)
    rw [Bool.not_eq_true', ← Bool.not_eq_true, List.isPrefixOf_iff_prefix]
    rintro ⟨rest, hrest⟩
    refine htree.entry?_ne_none_of_append place rest (fun hnone => ?_) hplace
    rw [entry?_of_ne_nil d (by simp [hnil]), hrest] at hnone
    exact (lookup_eq_none_iff _).1 hnone e he rfl
  rw [remove, hkeep]

/-- **What is put where nothing was can be taken away again.** -/
theorem remove_put (htree : d.IsTree) (hplace : d.entry? place = none) (entry : Entry) :
    (d.put place entry).remove place = d := by
  have hnil : place ≠ [] := ne_nil_of_entry? (by rw [hplace]; exact nofun)
  have hlookup : lookup place d.entries = none := by rw [← entry?_of_ne_nil d hnil, hplace]
  have hkeep : d.entries.filter (fun e => !place.isPrefixOf e.1) = d.entries :=
    congrArg Disk.entries (htree.remove_eq_self hplace)
  rw [Disk.put, remove, insert_of_lookup_eq_none hlookup, List.filter_append, hkeep]
  simp

end IsTree

/-! ## Walking -/

theorem checkDirectory_eq_ok_iff {u : Unit} :
    d.checkDirectory place = .ok u ↔ d.entry? place = some .directory := by
  unfold checkDirectory
  split <;> simp_all

theorem step_eq_ok_iff : d.step place name = .ok other ↔ d.entry? place = some .directory ∧
    ((name = Path.here ∧ other = place) ∨
      (name ≠ Path.here ∧ name = Path.above ∧ other = place.dropLast) ∨
      (name ≠ Path.here ∧ name ≠ Path.above ∧ checkName name = .ok () ∧
        d.entry? (place ++ [name]) ≠ none ∧ other = place ++ [name])) := by
  rw [step, Attempt.bind_eq_ok_iff]
  simp only [checkDirectory_eq_ok_iff, exists_const]
  refine and_congr_right (fun _ => ?_)
  by_cases hhere : name = Path.here
  · rw [if_pos hhere, Attempt.pure_eq_ok_iff]
    simp only [hhere, true_and, ne_eq, not_true_eq_false, false_and, or_false]
  · rw [if_neg hhere]
    by_cases habove : name = Path.above
    · rw [if_pos habove, Attempt.pure_eq_ok_iff]
      have hne : Path.above ≠ Path.here := by decide
      simp only [habove, hne, false_and, ne_eq, not_false_eq_true, true_and, not_true_eq_false,
        or_false, false_or]
    · rw [if_neg habove, Attempt.bind_eq_ok_iff]
      simp only [hhere, habove, false_and, ne_eq, not_false_eq_true, true_and, false_or]
      constructor
      · rintro ⟨u, hname, hnext⟩
        split at hnext
        · rename_i hentry
          exact ⟨hname, by rw [hentry]; exact nofun, Attempt.pure_eq_ok_iff.1 hnext⟩
        · cases hnext
      · rintro ⟨hname, hnext, rfl⟩
        obtain ⟨entry, hentry⟩ := Option.ne_none_iff_exists'.1 hnext
        exact ⟨(), hname, by rw [hentry]; rfl⟩

theorem of_step_notFound (hplace : d.entry? place = some .directory)
    (h : d.step place name = .error .notFound) :
    name ≠ Path.here ∧ name ≠ Path.above ∧ checkName name = .ok () ∧
      d.entry? (place ++ [name]) = none := by
  rw [step, checkDirectory, hplace] at h
  change (if name = Path.here then pure place else _) = _ at h
  split at h
  · cases h
  · rename_i hhere
    split at h
    · cases h
    · rename_i habove
      rcases Attempt.bind_eq_error_iff.1 h with h | ⟨u, hname, h⟩
      · unfold checkName at h
        split at h <;> cases h
      · split at h
        · cases h
        · rename_i hentry
          exact ⟨hhere, habove, hname, hentry⟩

/-- Directories are still directories, and where something was there is something. -/
structure Lasts (d m : Disk) : Prop where
  directory : ∀ place, d.entry? place = some .directory → m.entry? place = some .directory
  present : ∀ place, d.entry? place ≠ none → m.entry? place ≠ none

theorem Lasts.step (h : d.Lasts m) (hstep : d.step place name = .ok other) :
    m.step place name = .ok other := by
  obtain ⟨hplace, hstep⟩ := step_eq_ok_iff.1 hstep
  refine step_eq_ok_iff.2 ⟨h.directory _ hplace, ?_⟩
  rcases hstep with hhere | habove | ⟨hhere, habove, hname, hnext, hother⟩
  · exact Or.inl hhere
  · exact Or.inr (Or.inl habove)
  · exact Or.inr (Or.inr ⟨hhere, habove, hname, h.present _ hnext, hother⟩)

theorem Lasts.walk (h : d.Lasts m) : ∀ (names : List Text) {place : Place},
    d.walk place names = .ok other → m.walk place names = .ok other
  | [], _, hwalk => hwalk
  | name :: names, place, hwalk => by
    rw [Disk.walk, List.foldlM_cons] at hwalk ⊢
    obtain ⟨next, hnext, hrest⟩ := Attempt.bind_eq_ok_iff.1 hwalk
    exact Attempt.bind_eq_ok_iff.2 ⟨next, h.step hnext, h.walk names hrest⟩

theorem Lasts.walk_start (h : d.Lasts m) (hhome : m.home = d.home) {p : Path} {names : List Text}
    (hwalk : d.walk (d.start p) names = .ok other) : m.walk (m.start p) names = .ok other := by
  have hstart : m.start p = d.start p := by rw [start, start, hhome]
  rw [hstart]
  exact h.walk names hwalk

theorem lasts_put_file (hplace : d.entry? place ≠ some .directory) (contents : Bytes) :
    d.Lasts (d.put place (.file contents)) := by
  constructor
  · intro other hother
    have hne : other ≠ place := by
      rintro rfl
      exact hplace hother
    rw [entry?_put_other d _ hne, hother]
  · intro other hother
    rcases entry?_put d place (.file contents) other with h | ⟨_, h⟩
    · rwa [h]
    · rw [h]
      exact nofun

/-- The place that a path leads to, whether something is there or not. -/
def target? (d : Disk) (p : Path) : Option Place :=
  match p.names.getLast?, d.walk (d.start p) p.names.dropLast with
  | some last, .ok parent => some (parent ++ [last])
  | _, _ => none

theorem target?_eq_some_iff {p : Path} : d.target? p = some place ↔
    ∃ last parent, p.names.getLast? = some last ∧
      d.walk (d.start p) p.names.dropLast = .ok parent ∧ place = parent ++ [last] := by
  unfold target?
  split
  · rename_i last parent hlast hparent
    simp [hlast, hparent, eq_comm]
  · rename_i h
    constructor
    · rintro ⟨⟩
    · rintro ⟨last, parent, hlast, hparent, _⟩
      exact (h last parent hlast hparent).elim

theorem Lasts.target? (h : d.Lasts m) (hhome : m.home = d.home) {p : Path}
    (htarget : d.target? p = some place) : m.target? p = some place := by
  obtain ⟨last, parent, hlast, hparent, rfl⟩ := target?_eq_some_iff.1 htarget
  exact target?_eq_some_iff.2 ⟨last, parent, hlast, h.walk_start hhome hparent, rfl⟩

end Disk
end ApiTypes
