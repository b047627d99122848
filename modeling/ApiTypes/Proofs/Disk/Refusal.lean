import ApiTypes.Proofs.Disk.Above
/-!
# Writing on a disk that refuses

A directory may not be written to, a disk may be full: then a change that a write needs is refused,
whichever it is.  The write ends there, and the file that the text was put down in is taken away
(`writeUnless`); where nothing is refused it is the write of the library.  However it ends, the text
is in its place whole and everything else as it was, or every file is as it was; the only other
traces are directories above the path (`write_whole_or_not_at_all`).
-/
namespace ApiTypes
namespace Disk

variable {d d' m made : Disk} {place parent : Place} {p : Path} {w : Writing}

/-! ## Changes that are refused -/

/-- What keeps a change from being made, if anything does. -/
abbrev Refusal := Disk → Change → Option FileFault

/-- Makes changes in order, up to the first that is refused. -/
def perform (refuse : Refusal) : List Change → Disk → Disk × Except FileFault Unit
  | [], d => (d, .ok ())
  | c :: rest, d =>
    match refuse d c with
    | some fault => (d, .error fault)
    | none => perform refuse rest (c.apply d)

def allowed (refuse : Refusal) : List Change → Disk → List Change
  | [], _ => []
  | c :: rest, d =>
    match refuse d c with
    | some _ => []
    | none => c :: allowed refuse rest (c.apply d)

variable {refuse : Refusal} {changes : List Change}

theorem perform_never : ∀ (changes : List Change) (d : Disk),
    perform (fun _ _ => none) changes d = (d.applyAll changes, .ok ())
  | [], _ => rfl
  | c :: rest, d => perform_never rest (c.apply d)

theorem perform_eq_ok : ∀ {changes : List Change} {d : Disk},
    perform refuse changes d = (d', .ok ()) →
      d' = d.applyAll changes ∧ ∀ c ∈ changes, ∃ m, refuse m c = none
  | [], d, h => by
    cases h
    exact ⟨rfl, nofun⟩
  | c :: rest, d, h => by
    unfold perform at h
    split at h
    · cases h
    · rename_i hc
      obtain ⟨hends, hrest⟩ := perform_eq_ok h
      exact ⟨hends, List.forall_mem_cons.2 ⟨⟨d, hc⟩, hrest⟩⟩

theorem perform_eq_error {fault : FileFault} : ∀ {changes : List Change} {d : Disk},
    perform refuse changes d = (d', .error fault) →
      ∃ c after, changes = allowed refuse changes d ++ c :: after ∧
        d' = d.applyAll (allowed refuse changes d)
  | [], d, h => by cases h
  | c :: rest, d, h => by
    unfold perform at h
    unfold allowed
    cases hc : refuse d c with
    | some fault' =>
      rw [hc] at h
      cases h
      exact ⟨c, rest, rfl, rfl⟩
    | none =>
      rw [hc] at h
      obtain ⟨c', after, hrest, hends⟩ := perform_eq_error h
      exact ⟨c', after, congrArg (c :: ·) hrest, hends⟩

/-! ## A write that may be refused -/

/-- Writes a text, unless a change is refused on the way: then the write ends, and the file that the
text was put down in is taken away. -/
def writeUnless (refuse : Refusal) (s : Staging) (d : Disk) (w : Writing) :
    Disk × Except Failure Unit :=
  match perform refuse (directoryChanges (Path.parents w.path) d) d with
  | (made, .error fault) => (made, .error (.unwritable w.path fault))
  | (made, .ok ()) =>
    match (ensureDirectories (Path.parents w.path) d).2 with
    | .error fault => (made, .error (.unwritable w.path fault))
    | .ok _ =>
      match perform refuse (fileChanges s made w) made with
      | (m, .error fault) => (m.remove (s.place made w), .error (.unwritable w.path fault))
      | (m, .ok ()) =>
        (m, ((made.moveFile (Path.ofText w.path) w.text.utf8).map (fun _ => ())).mapError
          (.unwritable w.path))

def changesUnless (refuse : Refusal) (s : Staging) (d : Disk) (w : Writing) : List Change :=
  match perform refuse (directoryChanges (Path.parents w.path) d) d with
  | (_, .error _) => allowed refuse (directoryChanges (Path.parents w.path) d) d
  | (made, .ok ()) =>
    directoryChanges (Path.parents w.path) d ++
      match (ensureDirectories (Path.parents w.path) d).2 with
      | .error _ => []
      | .ok _ =>
        match perform refuse (fileChanges s made w) made with
        | (_, .error _) => allowed refuse (fileChanges s made w) made ++ [.unlink (s.place made w)]
        | (_, .ok ()) => fileChanges s made w

def writer (refuse : Refusal) (s : Staging) : Writer :=
  fun d path text => writeUnless refuse s d ⟨path, text⟩

theorem fileChanges_eq (s : Staging) (d : Disk) (w : Writing) : ∃ last, fileChanges s d w =
    .createFile (s.place d w) :: ((s.pieces w.text.utf8).map (.append (s.place d w)) ++ [last]) := by
  unfold fileChanges
  split
  · exact ⟨_, rfl⟩
  · exact ⟨_, rfl⟩

/-- **A file that was only begun is taken away without a trace.** -/
theorem remove_of_refused (s : Staging) (htree : d.IsTree) (w : Writing) {before after : List Change}
    {c : Change} (h : fileChanges s d w = before ++ c :: after) :
    (d.applyAll before).remove (s.place d w) = d := by
  have hplace : s.place d w ≠ [] := ne_nil_of_entry? (by rw [s.free]; exact nofun)
  cases before with
  | nil => exact htree.remove_eq_self (s.free d w)
  | cons first before =>
    obtain ⟨last, hchanges⟩ := fileChanges_eq s d w
    rw [hchanges, List.cons_append] at h
    obtain ⟨hcreate, hrest⟩ := List.cons.inj h
    -- what was made is the new file with some first pieces
    have hprefix : before <+: (s.pieces w.text.utf8).map (.append (s.place d w)) := by
      have hall : before <+: (s.pieces w.text.utf8).map (.append (s.place d w)) ++ [last] := by
        rw [hrest]
        exact List.prefix_append _ _
      rcases List.prefix_concat_iff.1 hall with hwhole | hbefore
      · rw [hwhole] at hrest
        simp at hrest
      · exact hbefore
    obtain ⟨pieces, -, rfl⟩ := List.prefix_map_iff.1 hprefix
    have hends := (applyAll_pieces (d := d) hplace pieces []).1
    have hfirst : d.applyAll (.createFile (s.place d w) :: pieces.map (.append (s.place d w))) =
        d.put (s.place d w) (.file ([] ++ pieces.flatten)) := hends
    rw [← hcreate, hfirst, htree.remove_put (s.free d w)]

theorem applyAll_fileChanges (s : Staging) (htree : d.IsTree) (w : Writing) :
    d.applyAll (fileChanges s d w) = match d.moveFile (Path.ofText w.path) w.text.utf8 with
      | .ok m => m
      | .error _ => d := by
  cases hmove : d.moveFile (Path.ofText w.path) w.text.utf8 with
  | ok m => exact (course_fileChanges_ok s htree hmove).ends
  | error fault => exact (course_fileChanges_error s htree hmove).ends

theorem writeUnless_never (s : Staging) (htree : d.IsTree) (w : Writing) :
    writeUnless (fun _ _ => none) s d w = d.writeText w.path w.text := by
  have hopens := opens_parents htree w.path
  have hfile := applyAll_fileChanges s (hopens.isTree htree) w
  rw [writeUnless, perform_never, hopens.applyAll_eq, writeText, writeFile]
  rcases hmade : ensureDirectories (Path.parents w.path) d with ⟨made, fault | place⟩
  · rfl
  · rw [hmade] at hfile
    simp only [perform_never, hfile]
    cases made.moveFile (Path.ofText w.path) w.text.utf8 <;> rfl

theorem writeChanges_of_ensured (s : Staging)
    (h : (ensureDirectories (Path.parents w.path) d).2 = .ok place) :
    writeChanges s d w = directoryChanges (Path.parents w.path) d ++
      fileChanges s (ensureDirectories (Path.parents w.path) d).1 w := by
  rw [writeChanges]
  rcases hensure : ensureDirectories (Path.parents w.path) d with ⟨made, fault | other⟩
  · rw [hensure] at h
    cases h
  · rfl

/-- How a write ends: nothing was refused and the text was moved to its place, or some directories
above the path were made. -/
inductive Ended (refuse : Refusal) (s : Staging) (d : Disk) (w : Writing) :
    Disk → Except Failure Unit → Prop where
  | moved {made d' : Disk}
      (h : Opens (Path.ofText w.path) d (directoryChanges (Path.parents w.path) d) made)
      (hmove : made.moveFile (Path.ofText w.path) w.text.utf8 = .ok d')
      (hallowed : ∀ c ∈ writeChanges s d w, ∃ m, refuse m c = none) : Ended refuse s d w d' (.ok ())
  | failed {changes : List Change} {d' : Disk} {fault : FileFault}
      (h : Opens (Path.ofText w.path) d changes d') :
      Ended refuse s d w d' (.error (.unwritable w.path fault))

theorem ended_writeUnless (refuse : Refusal) (s : Staging) (htree : d.IsTree) (w : Writing) :
    Ended refuse s d w (writeUnless refuse s d w).1 (writeUnless refuse s d w).2 := by
  have hopens := opens_parents htree w.path
  have htree' := hopens.isTree htree
  unfold writeUnless
  split
  · rename_i made fault hdirectories
    obtain ⟨c, after, hchanges, rfl⟩ := perform_eq_error hdirectories
    exact .failed (hopens.of_append hchanges)
  · rename_i made hdirectories
    obtain ⟨hmade, hallowed⟩ := perform_eq_ok hdirectories
    rw [hopens.applyAll_eq] at hmade
    subst hmade
    split
    · exact .failed hopens
    · rename_i place hplace
      split
      · rename_i m fault hfile
        obtain ⟨c, after, hchanges, rfl⟩ := perform_eq_error hfile
        rw [remove_of_refused s htree' w hchanges]
        exact .failed hopens
      · rename_i m hfile
        obtain ⟨rfl, hallowed'⟩ := perform_eq_ok hfile
        rw [applyAll_fileChanges s htree' w]
        cases hmove : (ensureDirectories (Path.parents w.path) d).1.moveFile
            (Path.ofText w.path) w.text.utf8 with
        | error fault => exact .failed hopens
        | ok m =>
          refine .moved hopens hmove (fun c hc => ?_)
          rw [writeChanges_of_ensured s hplace] at hc
          exact (List.mem_append.1 hc).elim (hallowed c) (hallowed' c)

/-! ## The course of a write -/

theorem mem_passed_of_append {m : Disk} {after : List Change} : ∀ {before : List Change} {d : Disk},
    m ∈ d.passed before → m ∈ d.passed (before ++ after)
  | [], d, h => by
    rw [List.mem_singleton.1 h]
    cases after with
    | nil => exact List.mem_cons_self
    | cons c after => exact List.mem_cons_self
  | c :: before, d, h => by
    rcases List.mem_cons.1 h with h | h
    · exact h ▸ List.mem_cons_self
    · exact List.mem_cons_of_mem d (mem_passed_of_append h)

theorem applyAll_mem_passed : ∀ (changes : List Change) (d : Disk),
    d.applyAll changes ∈ d.passed changes
  | [], _ => List.mem_cons_self
  | c :: rest, d => List.mem_cons_of_mem d (applyAll_mem_passed rest (c.apply d))

theorem passing_fileChanges (s : Staging) (htree : d.IsTree) (w : Writing) :
    ∀ m ∈ d.passed (fileChanges s d w), Passing s [w] d m := by
  cases hmove : d.moveFile (Path.ofText w.path) w.text.utf8 with
  | ok m => exact (course_fileChanges_ok s htree hmove).passing
  | error fault => exact (course_fileChanges_error s htree hmove).passing

theorem course_refused (s : Staging) (htree : d.IsTree) (w : Writing) {before after : List Change}
    {c : Change} (h : fileChanges s d w = before ++ c :: after) :
    Course s [w] [] d (before ++ [.unlink (s.place d w)]) d := by
  have hends : d.applyAll (before ++ [.unlink (s.place d w)]) = d := by
    rw [applyAll_append]
    exact remove_of_refused s htree w h
  have hpassing := passing_fileChanges s htree w
  rw [h] at hpassing
  refine ⟨hends, htree, nofun, .refl d, fun m hm => ?_⟩
  rcases mem_passed_append hm with hm | hm
  · exact hpassing m (mem_passed_of_append hm)
  · rcases List.mem_cons.1 hm with rfl | hm
    · exact hpassing _ (mem_passed_of_append (applyAll_mem_passed before d))
    · rw [List.mem_singleton.1 hm, Change.apply, remove_of_refused s htree w h]
      exact .kept ((Kept.refl d).mono nofun)

/-- Of some texts to be written, those that are brought to their places: if one could not be, the last
was not. -/
def brought (ws : List Writing) : Except Failure Unit → List Writing
  | .ok _ => ws
  | .error _ => ws.dropLast

/-- **A write brings a text to its place whole, or leaves every file as it is**, whatever the disk
refuses. -/
theorem course_writeUnless (refuse : Refusal) (s : Staging) (htree : d.IsTree) (w : Writing) :
    Course s [w] (brought [w] (writeUnless refuse s d w).2) d (changesUnless refuse s d w)
      (writeUnless refuse s d w).1 := by
  have hopens := opens_parents htree w.path
  have hdirectories : ∀ {changes : List Change} {m : Disk}, Opens (Path.ofText w.path) d changes m →
      Course s [w] [] d changes m :=
    fun h => (h.course htree).mono nofun (List.Subset.refl _) nofun
  unfold writeUnless changesUnless
  rcases hmade : perform refuse (directoryChanges (Path.parents w.path) d) d with ⟨made, fault | u⟩
  · obtain ⟨c, after, hchanges, rfl⟩ := perform_eq_error hmade
    exact hdirectories (hopens.of_append hchanges)
  · obtain ⟨rfl, -⟩ := perform_eq_ok hmade
    rw [hopens.applyAll_eq]
    have htree' := hopens.isTree htree
    cases hplace : (ensureDirectories (Path.parents w.path) d).2 with
    | error fault =>
      simp only [List.append_nil]
      exact hdirectories hopens
    | ok place =>
      generalize (ensureDirectories (Path.parents w.path) d).1 = made at hopens htree' ⊢
      dsimp only
      rcases hfile : perform refuse (fileChanges s made w) made with ⟨m, fault | u⟩
      · obtain ⟨c, after, hchanges, rfl⟩ := perform_eq_error hfile
        simp only [remove_of_refused s htree' w hchanges]
        exact (hopens.course htree).append (course_refused s htree' w hchanges)
      · obtain ⟨rfl, -⟩ := perform_eq_ok hfile
        simp only [applyAll_fileChanges s htree' w]
        cases hmove : made.moveFile (Path.ofText w.path) w.text.utf8 with
        | ok m => exact (hopens.course htree).append (course_fileChanges_ok s htree' hmove)
        | error fault => exact (hopens.course htree).append (course_fileChanges_error s htree' hmove)

/-! ## Where no file can be put -/

theorem of_walk_append {names names' : List Text} {other : Place}
    (h : d.walk place (names ++ names') = .ok other) :
    ∃ between, d.walk place names = .ok between ∧ d.walk between names' = .ok other := by
  rw [walk, List.foldlM_append] at h
  exact Attempt.bind_eq_ok_iff.1 h

theorem entry?_of_walk_cons {name : Text} {names : List Text} {other : Place}
    (h : d.walk place (name :: names) = .ok other) : d.entry? place = some .directory := by
  rw [walk, List.foldlM_cons] at h
  obtain ⟨next, hstep, -⟩ := Attempt.bind_eq_ok_iff.1 h
  exact (step_eq_ok_iff.1 hstep).1

theorem Moved.entry?_above {contents : Bytes} {last : Text} (h : Moved d p contents parent last d')
    (habove : d.LiesAbove p place) : d.entry? place = some .directory := by
  obtain ⟨names, hprefix, hshort, hwalk⟩ := habove
  have hdrop : names <+: p.names.dropLast := by
    rw [h.names_eq] at hprefix hshort
    exact (List.prefix_concat_iff.1 hprefix).resolve_left hshort
  obtain ⟨rest, hrest⟩ := hdrop
  have hall := h.walk
  rw [← hrest] at hall
  obtain ⟨between, hbetween, hrestwalk⟩ := of_walk_append hall
  rw [hwalk] at hbetween
  cases hbetween
  cases rest with
  | nil =>
    cases hrestwalk
    exact h.directory
  | cons name rest => exact entry?_of_walk_cons hrestwalk

theorem walk_of_entryAt (h : d.entryAt p = .ok .directory) :
    ∃ place, d.walk (d.start p) p.names = .ok place ∧ d.entry? place = some .directory := by
  unfold entryAt at h
  obtain ⟨_, _, h⟩ := Attempt.bind_eq_ok_iff.1 h
  obtain ⟨_, h⟩ := Attempt.guard_eq_ok_iff.1 h
  obtain ⟨place, hwalk, h⟩ := Attempt.bind_eq_ok_iff.1 h
  refine ⟨place, hwalk, ?_⟩
  split at h
  · assumption
  · rename_i entry hne hentry
    split at h
    · cases h
    · cases h
      exact hentry
  · cases h

theorem Moved.entry?_ne_directory {contents : Bytes} {last : Text}
    (h : Moved d p contents parent last d') (hwalk : d.walk (d.start p) p.names = .ok place) :
    d.entry? place ≠ some .directory := by
  rw [h.names_eq] at hwalk
  obtain ⟨between, hbetween, hlast⟩ := of_walk_append hwalk
  rw [h.walk] at hbetween
  cases hbetween
  obtain ⟨next, hstep, hnext⟩ := Attempt.bind_eq_ok_iff.1 hlast
  cases hnext
  rcases (step_eq_ok_iff.1 hstep).2 with ⟨hhere, -⟩ | ⟨-, habove, -⟩ | ⟨-, -, -, -, rfl⟩
  · exact absurd hhere h.ordinary.1
  · exact absurd habove h.ordinary.2
  · exact h.free

/-- What stands in the way of a write. -/
inductive Hindered (refuse : Refusal) (s : Staging) (d : Disk) (w : Writing) : Prop where
  | empty (h : w.path = [])
  | slash (h : w.path.getLast? = some '/')
  | directory (h : d.entryAt (Path.ofText w.path) = .ok .directory)
  | file {place : Place} {contents : Bytes} (h : d.LiesAbove (Path.ofText w.path) place)
      (hplace : d.entry? place = some (.file contents))
  | refused {c : Change} (hc : c ∈ writeChanges s d w) (h : ∀ m, refuse m c ≠ none)

theorem Hindered.ne_ok {s : Staging} (h : Hindered refuse s d w) (htree : d.IsTree) :
    (writeUnless refuse s d w).2 ≠ .ok () := by
  intro hok
  have hended := ended_writeUnless refuse s htree w
  rw [hok] at hended
  obtain ⟨hopens, hmove, hallowed⟩ := hended
  obtain ⟨parent, last, hmoved⟩ := exists_moved_of_moveFile hmove
  have hlasts := hopens.lasts
  cases h with
  | empty h =>
    have hlast := hmoved.last_eq
    rw [h] at hlast
    cases hlast
  | slash h =>
    have hslash := hmoved.slash
    rw [Path.ofText, decide_eq_true h] at hslash
    cases hslash
  | directory h =>
    obtain ⟨place, hwalk, hplace⟩ := walk_of_entryAt h
    have hwalk' := hlasts.walk_start hopens.home_eq hwalk
    exact hmoved.entry?_ne_directory hwalk' (hlasts.directory place hplace)
  | @file place contents h hplace =>
    have hmade := hmoved.entry?_above (h.mono hlasts hopens.home_eq)
    cases hopens.spared place with
    | same h =>
      rw [h, hplace] at hmade
      cases hmade
    | made h _ _ =>
      rw [h] at hplace
      cases hplace
  | refused hc h =>
    obtain ⟨m, hm⟩ := hallowed _ hc
    exact h m hm

/-! ## Whole or not at all -/

/-- A text is at the place that its path leads to, whole; elsewhere is what was there, or a new
directory above the path. -/
structure Brought (d : Disk) (w : Writing) (d' : Disk) : Prop where
  read : d'.entryAt (Path.ofText w.path) = .ok (.file w.text.utf8)
  fate : ∃ place, d'.target? (Path.ofText w.path) = some place ∧
    d.entry? place ≠ some .directory ∧ d'.entry? place = some (.file w.text.utf8) ∧
    ∀ other, other ≠ place → Spared (Path.ofText w.path) d d' other

theorem Opens.brought (h : Opens (Path.ofText w.path) d changes made)
    (hmove : made.moveFile (Path.ofText w.path) w.text.utf8 = .ok d') : Brought d w d' := by
  obtain ⟨parent, last, htarget, hparent, hfree, rfl⟩ := moveFile_eq_ok hmove
  have hlasts := lasts_put_file hfree w.text.utf8
  refine ⟨entryAt_of_moveFile hmove, parent ++ [last], hlasts.target? rfl htarget, ?_, ?_, ?_⟩
  · exact fun hplace => hfree (h.lasts.directory _ hplace)
  · exact entry?_put_same made _ (by simp)
  · intro other hother
    have hput := entry?_put_other made (.file w.text.utf8) hother
    cases h.spared other with
    | same h => exact .same (hput.trans h)
    | made h hm ha => exact .made h (hput.trans hm) (ha.mono hlasts rfl)

/-- **A write is all or nothing.**  Whatever the disk refuses, a write that succeeds has brought the
text whole to the place of its path, and one that fails has changed no file and left none behind;
apart from that there are at most new directories above the path.  Where nothing is refused this is
the write of the library.  Without a name to write to, with a slash behind the name, with a directory
in its place, with a file above it or with a change refused it does fail. -/
theorem write_whole_or_not_at_all (refuse : Refusal) (s : Staging) {d : Disk} (htree : d.IsTree)
    (w : Writing) :
    writeUnless (fun _ _ => none) s d w = d.writeText w.path w.text ∧
    (∀ d', writeUnless refuse s d w = (d', .ok ()) →
      d'.home = d.home ∧ d'.IsTree ∧ Brought d w d') ∧
    (∀ d' f, writeUnless refuse s d w = (d', .error f) →
      d'.home = d.home ∧ d'.IsTree ∧ (∃ fault, f = .unwritable w.path fault) ∧
        ∀ place, Spared (Path.ofText w.path) d d' place) ∧
    (Hindered refuse s d w → ∃ f, (writeUnless refuse s d w).2 = .error f) := by
  have hended := ended_writeUnless refuse s htree w
  refine ⟨writeUnless_never s htree w, fun d' h => ?_, fun d' f h => ?_, fun h => ?_⟩
  · rw [h] at hended
    obtain ⟨hopens, hmove, -⟩ := hended
    dsimp only at hmove
    obtain ⟨parent, last, -, hparent, hfree, hput⟩ := moveFile_eq_ok hmove
    refine ⟨?_, ?_, hopens.brought hmove⟩
    · rw [hput]
      exact hopens.home_eq
    · rw [hput]
      exact (hopens.isTree htree).put hparent hfree _
  · rw [h] at hended
    obtain ⟨⟩ | hopens := hended
    exact ⟨hopens.home_eq, hopens.isTree htree, ⟨_, rfl⟩, hopens.spared⟩
  · cases hresult : (writeUnless refuse s d w).2 with
    | error f => exact ⟨f, rfl⟩
    | ok u => exact absurd hresult (h.ne_ok htree)

def shelfDisk : Disk where
  entries :=
    [(["work"], .directory), (["work", "index.ts"], .file (Text.utf8 "old")),
      (["work", "notes"], .file (Text.utf8 "kept"))]
  home := ["work"]

/-- The disk is full: no file can be put on it, and none can grow. -/
def fullDisk : Refusal := fun _ c =>
  match c with
  | .append _ _ => some (.described "No space left on device")
  | _ => none

theorem write_whole_or_not_at_all_full :
    shelfDisk.IsTree ∧
    (∃ d' fault, writeUnless fullDisk .inHome shelfDisk ⟨"dist/lib/index.ts", "new"⟩ =
        (d', .error (.unwritable "dist/lib/index.ts" fault)) ∧
      d'.entry? ["work", "dist", "lib"] = some .directory ∧
      ∀ place, Spared (Path.ofText "dist/lib/index.ts") shelfDisk d' place) ∧
    (∃ d', shelfDisk.writeText "index.ts" "new" = (d', .ok ()) ∧
      Brought shelfDisk ⟨"index.ts", "new"⟩ d' ∧
      d'.entry? ["work", "notes"] = some (.file (Text.utf8 "kept"))) ∧
    ∃ f, (writeUnless fullDisk .inHome shelfDisk ⟨"notes/index.ts", "new"⟩).2 = .error f := by
  have htree : shelfDisk.IsTree := isTree_of_entries (by decide) (by decide)
  have hfull := write_whole_or_not_at_all fullDisk .inHome htree
  have hfree := write_whole_or_not_at_all (fun _ _ => none) .inHome htree ⟨"index.ts", "new"⟩
  refine ⟨htree, ?_, ?_, ?_⟩
  · have hwrite : writeUnless fullDisk .inHome shelfDisk ⟨"dist/lib/index.ts", "new"⟩ =
        (_, .error (.unwritable "dist/lib/index.ts" (.described "No space left on device"))) := rfl
    exact ⟨_, _, hwrite, by decide, ((hfull _).2.2.1 _ _ hwrite).2.2.2⟩
  · have hwrite : shelfDisk.writeText "index.ts" "new" = (_, .ok ()) := rfl
    exact ⟨_, hwrite, (hfree.2.1 _ (hfree.1.trans hwrite)).2.2, by decide⟩
  · exact (hfull _).2.2.2 (.file ⟨["notes"], by decide, by decide, rfl⟩ rfl)

end Disk
end ApiTypes
