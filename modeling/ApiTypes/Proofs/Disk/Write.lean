import ApiTypes.Disk.Write
import ApiTypes.Proofs.Disk.Tree
import ApiTypes.Proofs.Text.Lines
/-!
# A file is written whole or not at all

A write, change by change: directories are made where nothing was, the contents go piece by piece to
a new file somewhere, and that file is moved to its place, or taken away if it cannot be moved
(`writeChanges`).  Along that way each place is as it was before, or holds a new directory or the
whole text (`Kept`), but for the one new file, which is not at the place of the text (`Passing`).
What can be said of one write holds of several in a row (`Course.append`).
-/
namespace ApiTypes

structure Writing where
  path : Text
  text : Text
deriving DecidableEq

namespace Disk

variable {d d' d'' m : Disk} {place parent : Place} {name : Text} {written written' : List Writing}

/-! ## What becomes of a place -/

/-- Where some texts may have been written since, a place is as it was, or there is a directory where
nothing was, or there is one of the texts, whole, at the place that its path leads to. -/
inductive Fate (written : List Writing) (d m : Disk) (place : Place) : Prop where
  | same (h : m.entry? place = d.entry? place)
  | made (h : d.entry? place = none) (hm : m.entry? place = some .directory)
  | written {w : Writing} (hw : w ∈ written) (h : d.entry? place ≠ some .directory)
      (hplace : m.target? (Path.ofText w.path) = some place)
      (hm : m.entry? place = some (.file w.text.utf8))

/-- Nothing has become of a disk but what some texts written since make of it. -/
structure Kept (written : List Writing) (d m : Disk) : Prop where
  home : m.home = d.home
  fate : ∀ place, Fate written d m place

namespace Kept

theorem refl (d : Disk) : Kept [] d d := ⟨rfl, fun _ => .same rfl⟩

theorem mono (h : Kept written d m) (hw : written ⊆ written') : Kept written' d m := by
  refine ⟨h.home, fun place => ?_⟩
  cases h.fate place with
  | same h => exact .same h
  | made h hm => exact .made h hm
  | written hmem h hplace hm => exact .written (hw hmem) h hplace hm

theorem lasts (h : Kept written d m) : d.Lasts m := by
  constructor
  · intro place hplace
    cases h.fate place with
    | same h => rw [h, hplace]
    | made h _ => rw [h] at hplace; cases hplace
    | written _ h _ _ => exact absurd hplace h
  · intro place hplace
    cases h.fate place with
    | same h => rwa [h]
    | made h _ => exact absurd h hplace
    | written _ _ _ hm => rw [hm]; exact nofun

theorem trans (h : Kept written d d') (h' : Kept written' d' m) :
    Kept (written ++ written') d m := by
  refine ⟨h'.home.trans h.home, fun place => ?_⟩
  cases h'.fate place with
  | same hm =>
    cases h.fate place with
    | same h => exact .same (hm.trans h)
    | made h hd => exact .made h (hm.trans hd)
    | written hw h hplace hd =>
      exact .written (List.mem_append_left _ hw) h (h'.lasts.target? h'.home hplace) (hm.trans hd)
  | made hnone hm =>
    cases h.fate place with
    | same h => exact .made (h ▸ hnone) hm
    | made _ hd => rw [hnone] at hd; cases hd
    | written _ _ _ hd => rw [hnone] at hd; cases hd
  | written hw hd hplace hm =>
    exact .written (List.mem_append_right _ hw) (fun h₀ => hd (h.lasts.directory place h₀)) hplace hm

end Kept

/-! ## Changes -/

inductive Change where
  | makeDirectory (place : Place)
  | createFile (place : Place)
  | append (place : Place) (bytes : Bytes)
  | rename (source target : Place)
  | unlink (place : Place)

def Change.apply (d : Disk) : Change → Disk
  | .makeDirectory place => d.put place .directory
  | .createFile place => d.put place (.file [])
  | .append place bytes =>
    match d.entry? place with
    | some (.file contents) => d.put place (.file (contents ++ bytes))
    | _ => d
  | .rename source target =>
    match d.entry? source with
    | some entry => (d.remove source).put target entry
    | none => d
  | .unlink place => d.remove place

def applyAll (d : Disk) (changes : List Change) : Disk := changes.foldl Change.apply d

/-- The disks that a disk passes through under some changes, itself among them. -/
def passed (d : Disk) : List Change → List Disk
  | [] => [d]
  | c :: rest => d :: passed (c.apply d) rest

theorem applyAll_append (d : Disk) (changes changes' : List Change) :
    d.applyAll (changes ++ changes') = (d.applyAll changes).applyAll changes' :=
  List.foldl_append

theorem mem_passed_append {changes' : List Change} : ∀ {changes : List Change} {d : Disk},
    m ∈ d.passed (changes ++ changes') →
      m ∈ d.passed changes ∨ m ∈ (d.applyAll changes).passed changes'
  | [], _, h => Or.inr h
  | _ :: _, _, h => by
    rcases List.mem_cons.1 h with h | h
    · exact Or.inl (h ▸ List.mem_cons_self)
    · exact (mem_passed_append h).imp_left (List.mem_cons_of_mem _)

/-- How a text is put down before it is moved to its place: in which pieces, and where.  Nothing is
there, and it is not the place that the path of the text leads to. -/
structure Staging where
  place : Disk → Writing → Place
  pieces : Bytes → List Bytes
  free : ∀ (d : Disk) (w : Writing), d.entry? (place d w) = none
  apart : ∀ (d : Disk) (w : Writing), d.target? (Path.ofText w.path) ≠ some (place d w)
  whole : ∀ contents, (pieces contents).flatten = contents

/-- A name that is nowhere on a disk and not in a path, since it is longer than they are together. -/
def freshName (d : Disk) (path : Text) : Text :=
  List.replicate ((d.entries.flatMap (·.1)).flatten.length + path.length + 1) 't'

theorem entry?_freshName (d : Disk) (place : Place) (path : Text) :
    d.entry? (place ++ [d.freshName path]) = none := by
  rw [entry?_of_ne_nil d (by simp)]
  refine (lookup_eq_none_iff _).2 (fun e he hplace => ?_)
  have hmem : d.freshName path ∈ d.entries.flatMap (·.1) :=
    List.mem_flatMap.2 ⟨e, he, by rw [hplace]; exact List.mem_append_right _ List.mem_cons_self⟩
  have hlength := (List.sublist_flatten_of_mem hmem).length_le
  rw [freshName, List.length_replicate] at hlength
  omega

theorem target?_ne_freshName (d : Disk) (place : Place) (path : Text) :
    d.target? (Path.ofText path) ≠ some (place ++ [d.freshName path]) := by
  intro h
  obtain ⟨last, parent, hlast, -, hplace⟩ := target?_eq_some_iff.1 h
  obtain ⟨-, hname⟩ := List.append_inj' hplace rfl
  have hmem : last ∈ Text.tokens Path.isSlash path := List.mem_of_getLast? hlast
  have hletters := (List.sublist_flatten_of_mem hmem).length_le
  rw [Text.flatten_tokens, ← (List.cons.inj hname).1, freshName, List.length_replicate] at hletters
  have hlength := List.length_filter_le (fun c => !Path.isSlash c) path
  omega

def Staging.inHome : Staging where
  place d w := d.home ++ [d.freshName w.path]
  pieces contents := contents.map (fun b => [b])
  free d w := entry?_freshName d d.home w.path
  apart d w := target?_ne_freshName d d.home w.path
  whole contents := List.flatMap_singleton' contents

/-- Nothing has become of a disk but what some texts written since make of it, and the beginning of
one of the texts in a new file, where texts are put down and not where its path leads to. -/
inductive Passing (s : Staging) (written : List Writing) (d m : Disk) : Prop where
  | kept (h : Kept written d m)
  | staged {m' : Disk} {w : Writing} {contents : Bytes} (h : Kept written d m') (hw : w ∈ written)
      (hplace : m'.entry? (s.place m' w) = none)
      (htarget : m'.target? (Path.ofText w.path) ≠ some (s.place m' w))
      (hcontents : contents <+: w.text.utf8) (hm : m = m'.put (s.place m' w) (.file contents))

variable {s : Staging}

theorem Passing.of_kept (h : Kept written d d') (hw : written ⊆ written')
    (hm : Passing s written' d' m) : Passing s written' d m := by
  have hmem : written ++ written' ⊆ written' := List.append_subset.2 ⟨hw, List.Subset.refl _⟩
  cases hm with
  | kept h' => exact .kept ((h.trans h').mono hmem)
  | staged h' hw' hplace htarget hcontents hm =>
    exact .staged ((h.trans h').mono hmem) hw' hplace htarget hcontents hm

theorem Passing.mono (h : Passing s written d m) (hw : written ⊆ written') :
    Passing s written' d m := by
  cases h with
  | kept h => exact .kept (h.mono hw)
  | staged h hw' hplace htarget hcontents hm =>
    exact .staged (h.mono hw) (hw hw') hplace htarget hcontents hm

/-- Changes lead from a disk to a tree, on which some of the texts to be written are. -/
structure Course (s : Staging) (writings written : List Writing) (d : Disk) (changes : List Change)
    (d' : Disk) : Prop where
  ends : d.applyAll changes = d'
  tree : d'.IsTree
  subset : written ⊆ writings
  kept : Kept written d d'
  passing : ∀ m ∈ d.passed changes, Passing s writings d m

namespace Course

variable {writings writings' : List Writing} {changes changes' : List Change}

theorem nil (htree : d.IsTree) : Course s [] [] d [] d := by
  refine ⟨rfl, htree, List.Subset.refl _, .refl d, fun m hm => ?_⟩
  rw [List.mem_singleton.1 hm]
  exact .kept (.refl d)

theorem mono (h : Course s writings written d changes d') (hw : writings ⊆ writings')
    (hw' : written ⊆ written') (hsub : written' ⊆ writings') :
    Course s writings' written' d changes d' :=
  ⟨h.ends, h.tree, hsub, h.kept.mono hw', fun m hm => (h.passing m hm).mono hw⟩

theorem append (h : Course s writings written d changes d')
    (h' : Course s writings' written' d' changes' d'') :
    Course s (writings ++ writings') (written ++ written') d (changes ++ changes') d'' := by
  have hsubset : written ++ written' ⊆ writings ++ writings' :=
    List.append_subset.2 ⟨List.subset_append_of_subset_left _ h.subset,
      List.subset_append_of_subset_right _ h'.subset⟩
  refine ⟨?_, h'.tree, hsubset, h.kept.trans h'.kept, fun m hm => ?_⟩
  · rw [applyAll_append, h.ends, h'.ends]
  · rcases mem_passed_append hm with hm | hm
    · exact (h.passing m hm).mono (List.subset_append_left _ _)
    · rw [h.ends] at hm
      exact .of_kept h.kept (List.subset_append_of_subset_left _ h.subset)
        ((h'.passing m hm).mono (List.subset_append_right _ _))

end Course

/-! ## Making directories -/

/-- A directory that is asked for was there, or is made in another one. -/
inductive Ensured (d : Disk) (place : Place) : Disk → Prop where
  | there (h : d.entry? place = some .directory) : Ensured d place d
  | made {parent : Place} {name : Text} (hplace : place = parent ++ [name])
      (hparent : d.entry? parent = some .directory) (h : d.entry? place = none) :
      Ensured d place (d.put place .directory)

theorem ensured_of_ensureIn (hparent : d.entry? parent = some .directory)
    (h : d.ensureIn parent name = .ok (d', place)) : Ensured d place d' := by
  unfold ensureIn at h
  split at h
  · rename_i hstep
    cases h
    exact .made rfl hparent (of_step_notFound hparent hstep).2.2.2
  · obtain ⟨there, _, h⟩ := Attempt.bind_eq_ok_iff.1 h
    split at h
    · rename_i hentry
      cases h
      exact .there hentry
    · cases h

theorem ensured_of_ensureDirectory {p : Path} (h : d.ensureDirectory p = .ok (d', place)) :
    Ensured d place d' := by
  unfold ensureDirectory at h
  obtain ⟨u, _, h⟩ := Attempt.bind_eq_ok_iff.1 h
  obtain ⟨parent, _, h⟩ := Attempt.bind_eq_ok_iff.1 h
  obtain ⟨u, hparent, h⟩ := Attempt.bind_eq_ok_iff.1 h
  exact ensured_of_ensureIn (checkDirectory_eq_ok_iff.1 hparent) h

def directoryChange (d : Disk) (place : Place) : List Change :=
  if d.entry? place = none then [.makeDirectory place] else []

theorem Ensured.entry? (h : Ensured d place d') : d'.entry? place = some .directory := by
  cases h with
  | there h => exact h
  | made hplace _ _ => exact entry?_put_same d .directory (by simp [hplace])

theorem kept_put_directory (hplace : d.entry? place = none) :
    Kept [] d (d.put place .directory) := by
  refine ⟨rfl, fun other => ?_⟩
  rcases entry?_put d place .directory other with h | ⟨rfl, h⟩
  · exact .same h
  · exact .made hplace h

theorem course_makeDirectory (htree : d.IsTree) (hparent : d.entry? parent = some .directory)
    (hplace : d.entry? (parent ++ [name]) = none) :
    Course s [] [] d [.makeDirectory (parent ++ [name])] (d.put (parent ++ [name]) .directory) := by
  have hkept := kept_put_directory hplace
  refine ⟨rfl, htree.put hparent (by rw [hplace]; exact nofun) .directory, List.Subset.refl _, hkept,
    fun m hm => ?_⟩
  rcases List.mem_cons.1 hm with rfl | hm
  · exact .kept (.refl _)
  · rw [List.mem_singleton.1 hm]
    exact .kept hkept

def directoryChanges : List Path → Disk → List Change
  | [], _ => []
  | p :: above, d =>
    match d.ensureDirectory p with
    | .ok (_, place) => d.directoryChange place
    | .error .notFound =>
      directoryChanges above d ++
        match ensureDirectories above d with
        | (_, .error _) => []
        | (d, .ok parent) =>
          match d.ensureIn parent p.lastName with
          | .ok (_, place) => d.directoryChange place
          | .error _ => []
    | .error _ => []

theorem entry?_of_ensureDirectories (htree : d.IsTree) : ∀ {paths : List Path} {d' : Disk}
    {place : Place}, ensureDirectories paths d = (d', .ok place) → d'.entry? place = some .directory
  | [], _, _, h => by
    cases h
    exact htree.home
  | p :: above, _, _, h => by
    rw [ensureDirectories] at h
    cases hp : d.ensureDirectory p with
    | ok there =>
      rw [hp] at h
      cases h
      exact Ensured.entry? (ensured_of_ensureDirectory hp)
    | error fault =>
      rw [hp] at h
      cases fault with
      | notFound =>
        rcases habove : ensureDirectories above d with ⟨d₁, fault | parent⟩
        · rw [habove] at h
          cases h
        · have hparent := entry?_of_ensureDirectories htree habove
          rw [habove] at h
          cases hin : d₁.ensureIn parent p.lastName with
          | error fault =>
            simp only [hin] at h
            cases h
          | ok there =>
            simp only [hin] at h
            cases h
            exact Ensured.entry? (ensured_of_ensureIn hparent hin)
      | _ => cases h

/-! ## Writing a file -/

/-- A file is moved to the place of a name in a directory, where a path leads to. -/
structure Moved (d : Disk) (p : Path) (contents : Bytes) (parent : Place) (last : Text) (d' : Disk) :
    Prop where
  path : checkPath p = .ok ()
  last_eq : p.names.getLast? = some last
  walk : d.walk (d.start p) p.names.dropLast = .ok parent
  directory : d.entry? parent = some .directory
  ordinary : last ≠ Path.here ∧ last ≠ Path.above
  name : checkName last = .ok ()
  slash : p.endsInSlash = false
  free : d.entry? (parent ++ [last]) ≠ some .directory
  put : d' = d.put (parent ++ [last]) (.file contents)

theorem Moved.names_eq {p : Path} {contents : Bytes} {last : Text}
    (h : Moved d p contents parent last d') : p.names = p.names.dropLast ++ [last] :=
  (List.dropLast_append_getLast? last h.last_eq).symm

theorem exists_moved_of_moveFile {p : Path} {contents : Bytes} (h : d.moveFile p contents = .ok d') :
    ∃ parent last, Moved d p contents parent last d' := by
  unfold moveFile at h
  dsimp only at h
  obtain ⟨_, h⟩ := Attempt.guard_eq_ok_iff.1 h
  obtain ⟨_, hpath, h⟩ := Attempt.bind_eq_ok_iff.1 h
  split at h
  · cases h
  · rename_i last hlast
    obtain ⟨parent, hwalk, h⟩ := Attempt.bind_eq_ok_iff.1 h
    obtain ⟨_, hparent, h⟩ := Attempt.bind_eq_ok_iff.1 h
    obtain ⟨hordinary, h⟩ := Attempt.guard_eq_ok_iff.1 h
    obtain ⟨_, hname, h⟩ := Attempt.bind_eq_ok_iff.1 h
    obtain ⟨hslash, h⟩ := Attempt.guard_eq_ok_iff.1 h
    refine ⟨parent, last, ?_⟩
    split at h
    · cases h
    · rename_i hentry
      cases h
      exact ⟨hpath, hlast, hwalk, checkDirectory_eq_ok_iff.1 hparent, not_or.1 hordinary, hname,
        Bool.not_eq_true _ ▸ hslash, hentry, rfl⟩

theorem moveFile_eq_ok {p : Path} {contents : Bytes} (h : d.moveFile p contents = .ok d') :
    ∃ parent last, d.target? p = some (parent ++ [last]) ∧
      d.entry? parent = some .directory ∧ d.entry? (parent ++ [last]) ≠ some .directory ∧
      d' = d.put (parent ++ [last]) (.file contents) := by
  obtain ⟨parent, last, hmoved⟩ := exists_moved_of_moveFile h
  exact ⟨parent, last, target?_eq_some_iff.2 ⟨last, parent, hmoved.last_eq, hmoved.walk, rfl⟩,
    hmoved.directory, hmoved.free, hmoved.put⟩

/-- **A file that was moved to its place is found there.** -/
theorem entryAt_of_moveFile {p : Path} {contents : Bytes} (h : d.moveFile p contents = .ok d') :
    d'.entryAt p = .ok (.file contents) := by
  obtain ⟨parent, last, hmoved⟩ := exists_moved_of_moveFile h
  have hput := hmoved.put
  subst hput
  have hlasts := lasts_put_file hmoved.free contents
  have hentry := entry?_put_same d (.file contents) (by simp : parent ++ [last] ≠ [])
  have hnames := hmoved.names_eq
  have hwalk : Disk.walk (d.put (parent ++ [last]) (.file contents))
      (Disk.start (d.put (parent ++ [last]) (.file contents)) p) p.names =
        .ok (parent ++ [last]) := by
    rw [hnames, Disk.walk, List.foldlM_append]
    refine Attempt.bind_eq_ok_iff.2 ⟨parent, hlasts.walk _ hmoved.walk, ?_⟩
    refine Attempt.bind_eq_ok_iff.2 ⟨parent ++ [last], step_eq_ok_iff.2 ?_, rfl⟩
    exact ⟨hlasts.directory _ hmoved.directory, Or.inr (Or.inr ⟨hmoved.ordinary.1, hmoved.ordinary.2,
      hmoved.name, by rw [hentry]; exact Option.some_ne_none _, rfl⟩)⟩
  have hsome : ¬ (!p.absolute && p.names.isEmpty) = true := by
    rw [hnames]
    simp
  unfold entryAt
  refine Attempt.bind_eq_ok_iff.2 ⟨(), hmoved.path, ?_⟩
  refine Attempt.guard_eq_ok_iff.2 ⟨hsome, Attempt.bind_eq_ok_iff.2 ⟨_, hwalk, ?_⟩⟩
  rw [hentry]
  simp only [hmoved.slash, Bool.false_eq_true, if_false]
  rfl

theorem entryAt_of_writeText {path text : Text} (h : d.writeText path text = (d', .ok ())) :
    d'.entryAt (Path.ofText path) = .ok (.file text.utf8) := by
  rw [writeText, writeFile] at h
  rcases hmade : ensureDirectories (Path.parents path) d with ⟨d₁, fault | place⟩
  · rw [hmade] at h
    cases h
  · rw [hmade] at h
    dsimp only at h
    cases hmove : d₁.moveFile (Path.ofText path) text.utf8 with
    | error fault =>
      rw [hmove] at h
      cases h
    | ok d₂ =>
      rw [hmove] at h
      cases h
      exact entryAt_of_moveFile hmove

/-- The changes that put a text down somewhere, and then move it to its place, or take it away if it
cannot be moved. -/
def fileChanges (s : Staging) (d : Disk) (w : Writing) : List Change :=
  .createFile (s.place d w) :: ((s.pieces w.text.utf8).map (.append (s.place d w)) ++
    match d.moveFile (Path.ofText w.path) w.text.utf8, d.target? (Path.ofText w.path) with
    | .ok _, some target => [.rename (s.place d w) target]
    | _, _ => [.unlink (s.place d w)])

def writeChanges (s : Staging) (d : Disk) (w : Writing) : List Change :=
  directoryChanges (Path.parents w.path) d ++
    match ensureDirectories (Path.parents w.path) d with
    | (_, .error _) => []
    | (d, .ok _) => fileChanges s d w

theorem apply_append (hplace : place ≠ []) (contents bytes : Bytes) :
    (Change.append place bytes).apply (d.put place (.file contents)) =
      d.put place (.file (contents ++ bytes)) := by
  rw [Change.apply, entry?_put_same d _ hplace]
  exact put_put d place _ _

theorem applyAll_pieces (hplace : place ≠ []) : ∀ (pieces : List Bytes) (contents : Bytes),
    (d.put place (.file contents)).applyAll (pieces.map (.append place)) =
        d.put place (.file (contents ++ pieces.flatten)) ∧
      ∀ m ∈ (d.put place (.file contents)).passed (pieces.map (.append place)),
        ∃ contents', contents' <+: contents ++ pieces.flatten ∧ m = d.put place (.file contents')
  | [], contents => by
    refine ⟨by simp [applyAll], fun m hm => ⟨contents, List.prefix_append _ _, ?_⟩⟩
    exact List.mem_singleton.1 hm
  | piece :: pieces, contents => by
    obtain ⟨hends, hpassed⟩ := applyAll_pieces hplace pieces (contents ++ piece)
    rw [← apply_append hplace] at hends hpassed
    rw [List.append_assoc, ← List.flatten_cons] at hends hpassed
    refine ⟨hends, fun m hm => ?_⟩
    rcases List.mem_cons.1 hm with hm | hm
    · exact ⟨contents, List.prefix_append _ _, hm⟩
    · exact hpassed m hm

theorem course_staged (s : Staging) (htree : d.IsTree) (w : Writing) {last : Change}
    (hlast : last.apply (d.put (s.place d w) (.file w.text.utf8)) = d') (htree' : d'.IsTree)
    (hkept : Kept written d d') (hw : written ⊆ [w]) :
    Course s [w] written d (.createFile (s.place d w) ::
      ((s.pieces w.text.utf8).map (.append (s.place d w)) ++ [last])) d' := by
  have hplace : s.place d w ≠ [] := ne_nil_of_entry? (by rw [s.free]; exact nofun)
  obtain ⟨hends, hpassed⟩ := applyAll_pieces (d := d) hplace (s.pieces w.text.utf8) []
  rw [s.whole, List.nil_append] at hends
  have hself : Kept [w] d d := (Kept.refl d).mono nofun
  refine ⟨?_, htree', hw, hkept, fun m hm => ?_⟩
  · rw [← hlast, ← hends, ← List.cons_append, applyAll_append]
    rfl
  · rcases List.mem_cons.1 hm with rfl | hm
    · exact .kept hself
    · rcases mem_passed_append hm with hm | hm
      · obtain ⟨contents, hcontents, rfl⟩ := hpassed m hm
        rw [s.whole, List.nil_append] at hcontents
        exact .staged hself List.mem_cons_self (s.free d w) (s.apart d w) hcontents rfl
      · change m ∈ passed (applyAll (d.put (s.place d w) (.file [])) _) [last] at hm
        rw [hends] at hm
        rcases List.mem_cons.1 hm with rfl | hm
        · exact .staged hself List.mem_cons_self (s.free d w) (s.apart d w) List.prefix_rfl rfl
        · rw [List.mem_singleton.1 hm, hlast]
          exact .kept (hkept.mono hw)

theorem kept_put_file {w : Writing} (htarget : d.target? (Path.ofText w.path) = some place)
    (hplace : d.entry? place ≠ some .directory) :
    Kept [w] d (d.put place (.file w.text.utf8)) := by
  refine ⟨rfl, fun other => ?_⟩
  rcases entry?_put d place (.file w.text.utf8) other with h | ⟨rfl, h⟩
  · exact .same h
  · exact .written List.mem_cons_self hplace ((lasts_put_file hplace _).target? rfl htarget) h

theorem course_fileChanges_ok (s : Staging) (htree : d.IsTree) {w : Writing}
    (h : d.moveFile (Path.ofText w.path) w.text.utf8 = .ok d') :
    Course s [w] [w] d (fileChanges s d w) d' := by
  obtain ⟨parent, last, htarget, hparent, hplace, hd'⟩ := moveFile_eq_ok h
  rw [fileChanges, h, htarget]
  have htree' : d'.IsTree := by
    rw [hd']
    exact htree.put hparent hplace _
  have hkept : Kept [w] d d' := by
    rw [hd']
    exact kept_put_file htarget hplace
  refine course_staged s htree w ?_ htree' hkept (List.Subset.refl _)
  have hstaged : s.place d w ≠ [] := ne_nil_of_entry? (by rw [s.free]; exact nofun)
  rw [Change.apply, entry?_put_same d _ hstaged, hd']
  exact congrArg (fun d : Disk => d.put _ _) (htree.remove_put (s.free d w) _)

theorem course_fileChanges_error (s : Staging) (htree : d.IsTree) {w : Writing} {fault : FileFault}
    (h : d.moveFile (Path.ofText w.path) w.text.utf8 = .error fault) :
    Course s [w] [] d (fileChanges s d w) d := by
  rw [fileChanges, h]
  exact course_staged s htree w (htree.remove_put (s.free d w) _) htree (.refl d) nofun

end Disk
end ApiTypes
