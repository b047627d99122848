import ApiTypes.Proofs.Disk.Write
import ApiTypes.Proofs.Text.Lines
/-!
# The directories above a path

Making the directories above a path makes nothing else.  The paths that are tried follow each other
name by name (`ladder_parents`) and are leading parts of the path (`leads_of_mem_parents`), so each
directory that is made stands where some first names of the path lead, short of all of them
(`opens_directoryChanges`).  That holds as well of any first few of the changes
(`Opens.of_append`).
-/
namespace ApiTypes
namespace Path

/-! ## The paths above a path -/

/-- A path starts where another one does, and its names are some first names of it, not all. -/
structure Leads (p goal : Path) : Prop where
  absolute : p.absolute = goal.absolute
  names : p.names <+: goal.names
  short : p.names ≠ goal.names

def headNames : List Path → List Text
  | [] => []
  | p :: _ => p.names

/-- Each path goes one name further than the one behind it, not counting the names that a directory
has in itself. -/
def Ladder (absolute : Bool) : List Path → Prop
  | [] => True
  | p :: rest =>
    p.absolute = absolute ∧
      (∃ n last, p.names = headNames rest ++ List.replicate n here ++ [last]) ∧
      Ladder absolute rest

theorem Ladder.tail {absolute : Bool} : ∀ {paths : List Path},
    Ladder absolute paths → Ladder absolute paths.tail
  | [], h => h
  | _ :: _, h => h.2.2

theorem Ladder.absolute_eq {absolute : Bool} : ∀ {paths : List Path}, Ladder absolute paths →
    ∀ p ∈ paths, p.absolute = absolute
  | [], _, p, hp => by cases hp
  | q :: rest, h, p, hp => by
    rcases List.mem_cons.1 hp with rfl | hp
    · exact h.1
    · exact Ladder.absolute_eq h.2.2 p hp

theorem Ladder.prefix_of_mem {absolute : Bool} {q : Path} : ∀ {rest : List Path},
    Ladder absolute (q :: rest) → ∀ p ∈ rest, p.names <+: q.names ∧ p.names ≠ q.names
  | [], _, p, hp => by cases hp
  | r :: rest, h, p, hp => by
    obtain ⟨-, ⟨n, last, hq⟩, hrest⟩ := h
    have hlength : r.names.length < q.names.length := by
      rw [hq]
      simp [headNames]
    have hr : r.names <+: q.names := by
      rw [hq, headNames, List.append_assoc]
      exact List.prefix_append _ _
    rcases List.mem_cons.1 hp with rfl | hp
    · exact ⟨hr, fun e => by rw [e] at hlength; omega⟩
    · obtain ⟨hpr, hne⟩ := Ladder.prefix_of_mem hrest p hp
      refine ⟨hpr.trans hr, fun e => ?_⟩
      have hle := hpr.length_le
      rw [e] at hle
      omega

theorem ladder_upTo {absolute : Bool} {names : List Text} (letters : Text) (length : Nat) {n : Nat}
    {done : List Path} (hdone : Ladder absolute done)
    (hnames : names.reverse = headNames done ++ List.replicate n here) :
    Ladder absolute (upTo absolute names letters length ++ done) ∧
      ∃ k, (if letters.isEmpty then names else letters.reverse :: names).reverse =
        headNames (upTo absolute names letters length ++ done) ++ List.replicate k here := by
  unfold upTo
  by_cases hempty : letters.isEmpty = true
  · rw [if_pos (Or.inl hempty), if_pos hempty]
    exact ⟨hdone, n, hnames⟩
  · rw [if_neg hempty, List.reverse_cons, hnames]
    by_cases hhere : letters = here ∧ (absolute = true ∨ (!names.isEmpty) = true)
    · rw [if_pos (Or.inr hhere)]
      refine ⟨hdone, n + 1, ?_⟩
      rw [hhere.1, List.nil_append, List.replicate_succ', List.append_assoc]
      rfl
    · rw [if_neg (not_or.2 ⟨hempty, hhere⟩)]
      refine ⟨⟨rfl, ⟨n, letters.reverse, ?_⟩, hdone⟩, 0, ?_⟩
      · rfl
      · simp [headNames]

theorem reverse_upTo (absolute : Bool) (names : List Text) (letters : Text) (length : Nat) :
    (upTo absolute names letters length).reverse = upTo absolute names letters length := by
  unfold upTo
  split <;> rfl

theorem ladder_stages (absolute : Bool) : ∀ (t : Text) (names : List Text) (letters : Text)
    (length : Nat) {n : Nat} {done : List Path}, Ladder absolute done →
    names.reverse = headNames done ++ List.replicate n here →
      Ladder absolute ((stages absolute names letters length t).reverse ++ done)
  | [], names, letters, length, n, done, hdone, hnames => by
    rw [stages, reverse_upTo]
    exact (ladder_upTo letters length hdone hnames).1
  | c :: rest, names, letters, length, n, done, hdone, hnames => by
    unfold stages
    split
    · obtain ⟨hladder, k, hk⟩ := ladder_upTo letters length hdone hnames
      rw [List.reverse_append, reverse_upTo, List.append_assoc]
      exact ladder_stages absolute rest _ _ _ hladder hk
    · exact ladder_stages absolute rest _ _ _ hdone hnames

theorem ladder_reverse_stages (t : Text) :
    Ladder (t.head? = some '/') (stages (t.head? = some '/') [] [] 0 t).reverse := by
  have h : Ladder (t.head? = some '/') ((stages (t.head? = some '/') [] [] 0 t).reverse ++ []) :=
    ladder_stages _ t [] [] 0 (n := 0) trivial rfl
  rwa [List.append_nil] at h

theorem ladder_parents (t : Text) : Ladder (t.head? = some '/') (parents t) :=
  (ladder_reverse_stages t).tail

theorem prefix_of_mem_stages (absolute : Bool) : ∀ (t : Text) {names : List Text} {letters : Text}
    {length : Nat} {p : Path}, (∀ c ∈ letters, isSlash c = false) →
    p ∈ stages absolute names letters length t →
      p.names <+: names.reverse ++ Text.tokens isSlash (letters.reverse ++ t)
  | t, names, letters, length, p, hletters, hp => by
    have hword : ∀ c ∈ letters.reverse, isSlash c = false := fun c hc =>
      hletters c (List.mem_reverse.1 hc)
    have htokens := Text.tokens_of_forall_not hword
    have hupTo : p ∈ upTo absolute names letters length →
        p.names = names.reverse ++ Text.tokens isSlash letters.reverse := by
      intro hp
      unfold upTo at hp
      split at hp
      · cases hp
      · rename_i hne
        have hnil : letters.reverse.isEmpty = false := by simpa using (not_or.1 hne).1
        rw [List.mem_singleton.1 hp, htokens, hnil]
        simp
    cases t with
    | nil =>
      rw [List.append_nil]
      exact hupTo hp ▸ List.prefix_refl _
    | cons c rest =>
      unfold stages at hp
      split at hp
      · rename_i hc
        rw [Text.tokens_append_sep isSlash hc, htokens, ← List.append_assoc]
        rcases List.mem_append.1 hp with hp | hp
        · rw [hupTo hp, htokens]
          exact List.prefix_append _ _
        · have ih := prefix_of_mem_stages absolute rest (fun c hc => by cases hc) hp
          rw [List.reverse_nil, List.nil_append] at ih
          cases letters with
          | nil => simpa using ih
          | cons d letters => simpa using ih
      · rename_i hc
        have ih := prefix_of_mem_stages absolute rest
          (List.forall_mem_cons.2 ⟨Bool.eq_false_iff.2 hc, hletters⟩) hp
        simpa using ih

/-- **The paths above a path are leading parts of it.** -/
theorem leads_of_mem_parents {t : Text} {p : Path} (hp : p ∈ parents t) : p.Leads (ofText t) := by
  have habsolute := (ladder_parents t).absolute_eq p hp
  have hladder := ladder_reverse_stages t
  have hstage : ∀ q ∈ (stages (t.head? = some '/') [] [] 0 t).reverse,
      q.names <+: (ofText t).names := fun q hq =>
    prefix_of_mem_stages _ t (fun c hc => by cases hc) (List.mem_reverse.1 hq)
  rw [parents] at hp
  cases hs : (stages (t.head? = some '/') [] [] 0 t).reverse with
  | nil =>
    rw [hs] at hp
    cases hp
  | cons q rest =>
    rw [hs] at hp hladder hstage
    obtain ⟨hpq, hne⟩ := hladder.prefix_of_mem p hp
    have hq := hstage q List.mem_cons_self
    refine ⟨habsolute, hpq.trans hq, fun e => hne (hpq.eq_of_length ?_)⟩
    have hle := hq.length_le
    have hle' := hpq.length_le
    rw [e] at hle'
    rw [e]
    omega

end Path

namespace Disk

open ApiTypes.Path (Leads Ladder headNames)

variable {d d' m : Disk} {goal p : Path} {place parent : Place} {name : Text}

/-! ## Where a made directory stands -/

/-- Some first names of a path lead to a place, short of all its names. -/
def LiesAbove (d : Disk) (goal : Path) (place : Place) : Prop :=
  ∃ names, names <+: goal.names ∧ names ≠ goal.names ∧ d.walk (d.start goal) names = .ok place

/-- At a place is what was there, or a new directory above what a path leads to. -/
inductive Spared (goal : Path) (d m : Disk) (place : Place) : Prop where
  | same (h : m.entry? place = d.entry? place)
  | made (h : d.entry? place = none) (hm : m.entry? place = some .directory)
      (habove : m.LiesAbove goal place)

/-- Directories above what a path leads to are made one by one, each in a directory and where nothing
was. -/
inductive Opens (goal : Path) (d : Disk) : List Change → Disk → Prop where
  | nil : Opens goal d [] d
  | snoc {changes : List Change} {d' : Disk} {parent : Place} {name : Text}
      (h : Opens goal d changes d') (hparent : d'.entry? parent = some .directory)
      (hplace : d'.entry? (parent ++ [name]) = none)
      (habove : LiesAbove (d'.put (parent ++ [name]) .directory) goal (parent ++ [name])) :
      Opens goal d (changes ++ [.makeDirectory (parent ++ [name])])
        (d'.put (parent ++ [name]) .directory)

theorem LiesAbove.mono (h : d.LiesAbove goal place) (hlasts : d.Lasts m) (hhome : m.home = d.home) :
    m.LiesAbove goal place := by
  obtain ⟨names, hnames, hshort, hwalk⟩ := h
  exact ⟨names, hnames, hshort, hlasts.walk_start hhome hwalk⟩

namespace Opens

variable {changes : List Change}

theorem applyAll_eq (h : Opens goal d changes d') : d.applyAll changes = d' := by
  induction h with
  | nil => rfl
  | snoc h _ _ _ ih =>
    rw [applyAll_append, ih]
    rfl

theorem home_eq (h : Opens goal d changes d') : d'.home = d.home := by
  induction h with
  | nil => rfl
  | snoc h _ _ _ ih => exact ih

theorem isTree (htree : d.IsTree) (h : Opens goal d changes d') : d'.IsTree := by
  induction h with
  | nil => exact htree
  | snoc h hparent hplace _ ih => exact ih.put hparent (by simp [hplace]) .directory

/-- **Only directories above the path are new.** -/
theorem spared (h : Opens goal d changes d') : ∀ place, Spared goal d d' place := by
  induction h with
  | nil => exact fun place => .same rfl
  | @snoc changes d' parent name h hparent hplace habove ih =>
    intro place
    have hlasts := (kept_put_directory hplace).lasts
    rcases entry?_put d' (parent ++ [name]) .directory place with hput | ⟨rfl, hput⟩
    · cases ih place with
      | same h => exact .same (hput.trans h)
      | made h hm ha => exact .made h (hput.trans hm) (ha.mono hlasts rfl)
    · -- nothing was there on the way, so nothing was there at the start
      cases ih (parent ++ [name]) with
      | same h => exact .made (h ▸ hplace) hput habove
      | made h hm _ => rw [hplace] at hm; cases hm

theorem lasts (h : Opens goal d changes d') : d.Lasts d' := by
  constructor
  · intro place hplace
    cases h.spared place with
    | same h => rw [h, hplace]
    | made h _ _ => rw [h] at hplace; cases hplace
  · intro place hplace
    cases h.spared place with
    | same h => rwa [h]
    | made h _ _ => exact absurd h hplace

theorem course {s : Staging} (htree : d.IsTree) (h : Opens goal d changes d') :
    Course s [] [] d changes d' := by
  induction h with
  | nil => exact .nil htree
  | snoc h hparent hplace _ ih =>
    exact ih.append (course_makeDirectory (h.isTree htree) hparent hplace)

theorem of_append {before after : List Change} (h : Opens goal d changes d')
    (hchanges : changes = before ++ after) : Opens goal d before (d.applyAll before) := by
  induction h generalizing after with
  | nil =>
    rw [(List.append_eq_nil_iff.1 hchanges.symm).1]
    exact .nil
  | @snoc changes d' parent name h hparent hplace habove ih =>
    rcases List.eq_nil_or_concat after with rfl | ⟨rest, last, rfl⟩
    · rw [List.append_nil] at hchanges
      have hall := Opens.snoc h hparent hplace habove
      rw [← hchanges, hall.applyAll_eq]
      exact hall
    · rw [List.concat_eq_append, ← List.append_assoc] at hchanges
      exact ih (List.append_inj' hchanges rfl).1

theorem of_ensured {paths : List Change} (h : Opens goal d paths m) (hensured : Ensured m place d')
    (habove : d'.LiesAbove goal place) : Opens goal d (paths ++ m.directoryChange place) d' := by
  cases hensured with
  | there hplace =>
    rw [directoryChange, if_neg (by rw [hplace]; exact Option.some_ne_none _), List.append_nil]
    exact h
  | @made parent name hname hparent hplace =>
    subst hname
    rw [directoryChange, if_pos hplace]
    exact .snoc h hparent hplace habove

end Opens

/-! ## Walking to what was made -/

theorem walk_replicate_here (h : d.entry? place = some .directory) : ∀ n : Nat,
    d.walk place (List.replicate n Path.here) = .ok place
  | 0 => rfl
  | n + 1 => by
    have hstep : d.step place Path.here = .ok place := step_eq_ok_iff.2 ⟨h, Or.inl ⟨rfl, rfl⟩⟩
    rw [List.replicate_succ, walk, List.foldlM_cons]
    exact Attempt.bind_eq_ok_iff.2 ⟨place, hstep, walk_replicate_here h n⟩

theorem walk_append {names names' : List Text} {other : Place} (h : d.walk place names = .ok parent)
    (h' : d.walk parent names' = .ok other) : d.walk place (names ++ names') = .ok other := by
  rw [walk, List.foldlM_append]
  exact Attempt.bind_eq_ok_iff.2 ⟨parent, h, h'⟩

theorem step_of_ensureIn (hparent : d.entry? parent = some .directory)
    (h : d.ensureIn parent name = .ok (d', place)) : d'.step parent name = .ok place := by
  unfold ensureIn at h
  split at h
  · rename_i hstep
    obtain ⟨hhere, habove, hname, hplace⟩ := of_step_notFound hparent hstep
    cases h
    have hlasts := (kept_put_directory hplace).lasts
    have hmade := entry?_put_same d .directory (by simp : parent ++ [name] ≠ [])
    exact step_eq_ok_iff.2 ⟨hlasts.directory _ hparent,
      Or.inr (Or.inr ⟨hhere, habove, hname, by simp [hmade], rfl⟩)⟩
  · obtain ⟨there, hstep, h⟩ := Attempt.bind_eq_ok_iff.1 h
    split at h
    · cases h
      exact hstep
    · cases h

theorem ensureIn_ne_notFound : d.ensureIn parent name ≠ .error .notFound := by
  intro h
  unfold ensureIn at h
  split at h
  · cases h
  · rename_i hstep
    rcases Attempt.bind_eq_error_iff.1 h with h | ⟨there, _, h⟩
    · exact hstep h
    · split at h <;> cases h

theorem ensureDirectory_eq_ok (h : d.ensureDirectory p = .ok (d', place)) :
    ∃ parent, d.walk (d.start p) p.names.dropLast = .ok parent ∧
      d.entry? parent = some .directory ∧ d.ensureIn parent p.lastName = .ok (d', place) := by
  unfold ensureDirectory at h
  obtain ⟨_, _, h⟩ := Attempt.bind_eq_ok_iff.1 h
  obtain ⟨parent, hwalk, h⟩ := Attempt.bind_eq_ok_iff.1 h
  obtain ⟨_, hparent, h⟩ := Attempt.bind_eq_ok_iff.1 h
  exact ⟨parent, hwalk, checkDirectory_eq_ok_iff.1 hparent, h⟩

theorem ensureDirectory_ne_notFound (hstart : d.entry? (d.start p) = some .directory) {n : Nat}
    {last : Text} (hp : p.names = List.replicate n Path.here ++ [last]) :
    d.ensureDirectory p ≠ .error .notFound := by
  intro h
  have hwalk : d.walk (d.start p) p.names.dropLast = .ok (d.start p) := by
    rw [hp, List.dropLast_concat]
    exact walk_replicate_here hstart n
  unfold ensureDirectory at h
  rcases Attempt.bind_eq_error_iff.1 h with h | ⟨_, _, h⟩
  · unfold checkPath at h
    split at h
    · cases h
    · split at h <;> cases h
  · rw [hwalk] at h
    rcases Attempt.bind_eq_error_iff.1 h with h | ⟨parent, hparent, h⟩
    · cases h
    · cases hparent
      rcases Attempt.bind_eq_error_iff.1 h with h | ⟨_, _, h⟩
      · rw [checkDirectory, hstart] at h
        cases h
      · exact ensureIn_ne_notFound h

theorem IsTree.start (htree : d.IsTree) (p : Path) : d.entry? (d.start p) = some .directory := by
  unfold Disk.start
  split
  · rfl
  · exact htree.home

theorem walk_of_ensureIn {last : Text} (hlast : p.names.getLast? = some last)
    (hwalk : d.walk (d.start p) p.names.dropLast = .ok parent)
    (hparent : d.entry? parent = some .directory)
    (h : d.ensureIn parent p.lastName = .ok (d', place)) :
    d'.walk (d'.start p) p.names = .ok place := by
  have hstep := step_of_ensureIn hparent h
  have hkept : ∃ written, Kept written d d' := by
    cases ensured_of_ensureIn hparent h with
    | there _ => exact ⟨_, .refl d⟩
    | made _ _ hplace => exact ⟨_, kept_put_directory hplace⟩
  obtain ⟨_, hkept⟩ := hkept
  have hnames : p.names = p.names.dropLast ++ [p.lastName] := by
    rw [Path.lastName, hlast]
    exact (List.dropLast_append_getLast? last hlast).symm
  rw [hnames]
  refine walk_append (hkept.lasts.walk_start hkept.home hwalk) ?_
  exact Attempt.bind_eq_ok_iff.2 ⟨place, hstep, rfl⟩

theorem start_of_leads (h : p.Leads goal) (d : Disk) : d.start p = d.start goal := by
  rw [start, start, h.absolute]

theorem LiesAbove.of_leads (h : p.Leads goal) (hwalk : d.walk (d.start p) p.names = .ok place) :
    d.LiesAbove goal place :=
  ⟨p.names, h.names, h.short, by rwa [← start_of_leads h]⟩

/-- **One directory more**: made in the place that the names of a path lead to, all but the last, it is
found by all of them. -/
theorem Opens.ensureIn {changes : List Change} {last : Text} (h : Opens goal d changes m)
    (hp : p.Leads goal) (hlast : p.names.getLast? = some last)
    (hwalk : m.walk (m.start p) p.names.dropLast = .ok parent)
    (hparent : m.entry? parent = some .directory)
    (hin : m.ensureIn parent p.lastName = .ok (d', place)) :
    Opens goal d (changes ++ m.directoryChange place) d' ∧
      d'.walk (d'.start goal) p.names = .ok place := by
  have hfound := walk_of_ensureIn hlast hwalk hparent hin
  refine ⟨h.of_ensured (ensured_of_ensureIn hparent hin) (.of_leads hp hfound), ?_⟩
  rwa [start_of_leads hp] at hfound

/-- **The directories above a path are made, and nothing else**, one by one along the path. -/
theorem opens_directoryChanges (htree : d.IsTree) : ∀ paths : List Path,
    Ladder goal.absolute paths → (∀ p ∈ paths, p.Leads goal) →
      Opens goal d (directoryChanges paths d) (ensureDirectories paths d).1 ∧
        (paths ≠ [] → ∀ place, (ensureDirectories paths d).2 = .ok place →
          Disk.walk (ensureDirectories paths d).1
            (Disk.start (ensureDirectories paths d).1 goal) (headNames paths) = .ok place)
  | [], _, _ => ⟨.nil, fun h => absurd rfl h⟩
  | p :: above, hladder, hleads => by
    obtain ⟨hp, habove⟩ := List.forall_mem_cons.1 hleads
    obtain ⟨hopens, hwalked⟩ := opens_directoryChanges htree above hladder.2.2 habove
    obtain ⟨-, ⟨n, last, hnames⟩, -⟩ := hladder
    have hlast : p.names.getLast? = some last := by rw [hnames, List.getLast?_concat]
    have hdrop : p.names.dropLast = headNames above ++ List.replicate n Path.here := by
      rw [hnames, List.dropLast_concat]
    rw [directoryChanges, ensureDirectories]
    -- the paths behind count only where a directory on the way is missing
    cases hensure : d.ensureDirectory p with
    | ok there =>
      obtain ⟨d', place⟩ := there
      obtain ⟨parent, hwalk, hparent, hin⟩ := ensureDirectory_eq_ok hensure
      obtain ⟨hopen, hfound⟩ := Opens.nil.ensureIn hp hlast hwalk hparent hin
      refine ⟨hopen, fun _ other hother => ?_⟩
      cases hother
      exact hfound
    | error fault =>
      cases fault with
      | notFound =>
        cases above with
        | nil =>
          rw [headNames, List.nil_append] at hnames
          exact absurd hensure (ensureDirectory_ne_notFound (htree.start p) hnames)
        | cons q above =>
          rcases hmade : ensureDirectories (q :: above) d with ⟨d₁, fault | parent⟩
          · rw [hmade] at hopens
            simp only [List.append_nil]
            exact ⟨hopens, fun _ _ h => by cases h⟩
          · rw [hmade] at hopens hwalked
            have hparent := entry?_of_ensureDirectories htree hmade
            have hwalk : d₁.walk (d₁.start p) p.names.dropLast = .ok parent := by
              rw [start_of_leads hp, hdrop]
              exact walk_append (hwalked (List.cons_ne_nil q above) parent rfl)
                (walk_replicate_here hparent n)
            cases hin : d₁.ensureIn parent p.lastName with
            | error fault =>
              simp only [hin, List.append_nil]
              exact ⟨hopens, fun _ _ h => by cases h⟩
            | ok there =>
              obtain ⟨d', place⟩ := there
              obtain ⟨hopen, hfound⟩ := hopens.ensureIn hp hlast hwalk hparent hin
              simp only [hin]
              refine ⟨hopen, fun _ other hother => ?_⟩
              cases hother
              exact hfound
      | _ => exact ⟨.nil, fun _ _ h => by cases h⟩

theorem opens_parents (htree : d.IsTree) (t : Text) :
    Opens (Path.ofText t) d (directoryChanges (Path.parents t) d)
      (ensureDirectories (Path.parents t) d).1 :=
  (opens_directoryChanges htree (Path.parents t) (Path.ladder_parents t)
    (fun _ hp => Path.leads_of_mem_parents hp)).1

end Disk
end ApiTypes
