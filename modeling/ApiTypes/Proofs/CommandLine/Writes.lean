import ApiTypes.CommandLine.Run
import ApiTypes.Proofs.Disk.Refusal
/-!
# What a run leaves on the disk

A run writes texts one after the other once they are all there (`runCommand_eq`).  So a run that
fails before has changed nothing, and one that cannot write a text, whatever the disk refuses, has
brought those before it to their places and left no other file behind (`failed_run_leaves_tree`).
-/
namespace ApiTypes

/-- Something cannot be written. -/
def Failure.IsWrite (f : Failure) : Prop := ∃ path fault, f = .unwritable path fault

theorem Failure.isWrite_iff (f : Failure) :
    f.IsWrite ↔ f.exitCode = 3 ∧ ("cannot write ".toList).isPrefixOf f.message = true := by
  cases f with
  | unwritable path fault => exact ⟨fun _ => ⟨rfl, rfl⟩, fun _ => ⟨path, fault, rfl⟩⟩
  | fileNotFound path => exact ⟨nofun, nofun⟩
  | unreadable path fault => exact ⟨nofun, nofun⟩
  | remoteDisabled url => exact ⟨nofun, nofun⟩
  | invalidJson fault => exact ⟨nofun, nofun⟩
  | invalidDocument what fault => exact ⟨nofun, nofun⟩
  | conversion fault => exact ⟨nofun, nofun⟩
  | strictWarnings count => exact ⟨nofun, nofun⟩

namespace CommandLine

open Disk (Kept Passing Staging Refusal Course writeUnless changesUnless brought)

variable {write : Disk.Writer} {launch : Launcher} {d : Disk} {c : Command}

/-! ## Several writes in a row -/

/-- Writes texts one after the other, up to the first that cannot be written. -/
def writeEach (write : Disk.Writer) : List Writing → Disk → Stage Unit
  | [], d => ⟨d, [], .ok ()⟩
  | w :: rest, d => (writeLogged write d w.path w.text).andThen fun d () => writeEach write rest d

theorem writeEach_singleton (w : Writing) :
    writeEach write [w] d = writeLogged write d w.path w.text := by
  rw [writeEach, writeLogged]
  rcases write d w.path w.text with ⟨d', f | u⟩ <;> rfl

def changesOfEach (refuse : Refusal) (s : Staging) : List Writing → Disk → List Disk.Change
  | [], _ => []
  | w :: rest, d =>
    changesUnless refuse s d w ++
      match writeUnless refuse s d w with
      | (d, .ok ()) => changesOfEach refuse s rest d
      | (_, .error _) => []

/-- **Of texts that are written one after the other, those that are brought to their places are there
whole, and everything else is as it was.** -/
theorem course_writeEach (refuse : Refusal) (s : Staging) : ∀ (ws : List Writing) {d : Disk},
    d.IsTree → Course s ws (brought ws (writeEach (Disk.writer refuse s) ws d).result) d
      (changesOfEach refuse s ws d) (writeEach (Disk.writer refuse s) ws d).disk
  | [], _, htree => .nil htree
  | w :: rest, d, htree => by
    have hcourse := Disk.course_writeUnless refuse s htree w
    rw [changesOfEach, writeEach, writeLogged, Disk.writer]
    rcases hw : writeUnless refuse s d w with ⟨d', fault | u⟩
    · rw [hw] at hcourse
      simp only [List.append_nil]
      have hw : [w] ⊆ w :: rest := List.cons_subset_cons w (List.nil_subset rest)
      exact hcourse.mono hw nofun (List.dropLast_subset _)
    · rw [hw] at hcourse
      have hbrought : ∀ r, brought (w :: rest) r = [w] ++ brought rest r ∨ rest = [] := by
        intro r
        cases rest with
        | nil => exact Or.inr rfl
        | cons v rest => cases r <;> exact Or.inl rfl
      have hrest := hcourse.append (course_writeEach refuse s rest hcourse.tree)
      simp only [Stage.andThen]
      rcases hbrought (writeEach (Disk.writer refuse s) rest d').result with h | rfl
      · rwa [h]
      · exact hrest

theorem writeEach_never (s : Staging) : ∀ (ws : List Writing) {d : Disk}, d.IsTree →
    writeEach (Disk.writer (fun _ _ => none) s) ws d = writeEach Disk.writeText ws d
  | [], _, _ => rfl
  | w :: rest, d, htree => by
    have hnever := Disk.writeUnless_never s htree w
    have htree' := (Disk.course_writeUnless (fun _ _ => none) s htree w).tree
    rw [writeEach, writeEach, writeLogged, writeLogged, Disk.writer, hnever]
    rw [hnever] at htree'
    rcases hw : d.writeText w.path w.text with ⟨d', f | u⟩
    · rfl
    · rw [hw] at htree'
      simp only [Stage.andThen]
      rw [← writeEach_never s rest htree']

/-! ## The texts of a run -/

def Command.writingsOf (launch : Launcher) (d : Disk) (first : Text) :
    Command → Except Failure (List Writing)
  | .v1 _ none _ => .ok []
  | .v1 _ (some path) _ => .ok [⟨path, first⟩]
  | .generate _ _ none output _ => .ok [⟨output, OpenApi.combine first none⟩]
  | .generate _ openapi (some o) output _ => do
    let (document, second) ← (convertDocument launch d openapi o).result
    return (o.save.map (Writing.mk · document.renderIndented)).toList ++
      [⟨output, OpenApi.combine first (some second)⟩]

/-- The texts that a command writes, or what fails before. -/
def Command.prepare (launch : Launcher) (d : Disk) (c : Command) : Except Failure (List Writing) := do
  let first ← (checkedArtifact d c.source c.strict).2
  c.writingsOf launch d first

def Command.writings (launch : Launcher) (d : Disk) (c : Command) : List Writing :=
  (c.prepare launch d).toOption.getD []

def Command.changes (refuse : Refusal) (launch : Launcher) (s : Staging) (d : Disk) (c : Command) :
    List Disk.Change :=
  changesOfEach refuse s (c.writings launch d) d

/-- The OpenAPI document, where a command is to save it. -/
def Command.saved (d : Disk) : Command → List Writing
  | .generate _ openapi (some o) _ _ =>
    match o.save, d.loadPlace openapi with
    | some path, .ok document => [⟨path, document.renderIndented⟩]
    | _, _ => []
  | _ => []

/-- The converter of a command leaves the disk as it is. -/
def Command.KeepsDisk (launch : Launcher) (d : Disk) : Command → Prop
  | .generate _ openapi (some o) _ _ =>
    ∀ document, d.loadPlace openapi = .ok document → (launch d o.program o.args document).1 = d
  | _ => True

theorem disk_convertDocument {openapi : Text} {o : ConverterOptions}
    (h : ∀ document, d.loadPlace openapi = .ok document →
      (launch d o.program o.args document).1 = d) :
    (convertDocument launch d openapi o).disk = d := by
  unfold convertDocument
  cases hload : d.loadPlace openapi with
  | error f => rfl
  | ok document => exact h document hload

theorem loadPlace_of_convertDocument {openapi second : Text} {o : ConverterOptions} {document : Json}
    (h : (convertDocument launch d openapi o).result = .ok (document, second)) :
    d.loadPlace openapi = .ok document := by
  unfold convertDocument at h
  cases hload : d.loadPlace openapi with
  | error f =>
    rw [hload] at h
    cases h
  | ok document' =>
    rw [hload] at h
    simp only at h
    cases hgen : OpenApi.generate (fun _ => (launch d o.program o.args document').2) openapi
        document' with
    | error f =>
      rw [hgen] at h
      cases h
    | ok types =>
      rw [hgen] at h
      cases h
      rfl

/-- **What a command does to the disk is to write its texts**, unless something fails before; what is
logged before does not depend on how they are written. -/
theorem deliver_eq (hkeeps : c.KeepsDisk launch d) (first : Text) : ∃ output events, ∀ write,
    deliver write launch d first c = (output,
      match c.writingsOf launch d first with
      | .error f => ⟨d, events, .error f⟩
      | .ok ws => (writeEach write ws d).behind events) := by
  cases c with
  | v1 source output strict =>
    cases output with
    | none => exact ⟨_, [], fun _ => rfl⟩
    | some path =>
      refine ⟨[], [], fun write => ?_⟩
      exact congrArg (fun x => ([], Stage.behind [] x)) (writeEach_singleton ⟨path, first⟩).symm
  | generate source openapi converter output strict =>
    cases converter with
    | none =>
      refine ⟨[], [.noConverter], fun write => ?_⟩
      exact congrArg (fun x => ([], Stage.behind _ x))
        (writeEach_singleton ⟨output, OpenApi.combine first none⟩).symm
    | some o =>
      have hdisk := disk_convertDocument hkeeps
      refine ⟨[], (convertDocument launch d openapi o).events, fun write => ?_⟩
      rw [deliver, writeCombined, Command.writingsOf]
      rcases hconvert : convertDocument launch d openapi o with ⟨d', events, f | ⟨document, second⟩⟩
      · rw [hconvert] at hdisk
        cases hdisk
        rfl
      · rw [hconvert] at hdisk
        cases hdisk
        have hlast : ∀ d, writeEach write [⟨output, OpenApi.combine first (some second)⟩] d =
            writeLogged write d output (OpenApi.combine first (some second)) :=
          fun d => writeEach_singleton ⟨output, OpenApi.combine first (some second)⟩
        cases hsave : o.save with
        | none => exact congrArg (fun x => ([], Stage.behind events x)) (hlast d').symm
        | some path =>
          refine congrArg (fun x => ([], Stage.behind events x)) ?_
          simp only [saveConverted]
          exact congrArg (Stage.andThen _) (funext fun d => funext fun _ => (hlast d).symm)

theorem runCommand_eq (hkeeps : c.KeepsDisk launch d) : ∃ events output, ∀ write,
    runCommand write launch d c =
      match c.prepare launch d with
      | .error f => .ofFailure d events f
      | .ok ws => .ofStage output ((writeEach write ws d).behind events) := by
  unfold Command.prepare
  rcases hfirst : checkedArtifact d c.source c.strict with ⟨before, f | first⟩
  · exact ⟨before, [], fun write => by rw [runCommand, hfirst]; rfl⟩
  · obtain ⟨output, events, hdeliver⟩ := deliver_eq hkeeps first
    refine ⟨before ++ events, output, fun write => ?_⟩
    rw [runCommand, hfirst]
    dsimp only
    rw [hdeliver write]
    change _ = match c.writingsOf launch d first with
      | .error f => Outcome.ofFailure d _ f
      | .ok ws => _
    cases c.writingsOf launch d first with
    | error f => rfl
    | ok ws =>
      dsimp only [Stage.behind]
      rw [List.append_assoc]

/-! ## Runs that fail -/

theorem isWrite_of_writeUnless {refuse : Refusal} {s : Staging} (htree : d.IsTree) {w : Writing}
    {f : Failure} (h : (writeUnless refuse s d w).2 = .error f) : f.IsWrite := by
  have hended := Disk.ended_writeUnless refuse s htree w
  rw [h] at hended
  cases hended
  exact ⟨_, _, rfl⟩

theorem isWrite_of_writeEach {refuse : Refusal} {s : Staging} : ∀ (ws : List Writing) {d : Disk}
    {f : Failure}, d.IsTree → (writeEach (Disk.writer refuse s) ws d).result = .error f → f.IsWrite
  | [], _, _, _, h => by cases h
  | w :: rest, d, f, htree, h => by
    have htree' := (Disk.course_writeUnless refuse s htree w).tree
    rw [writeEach, writeLogged, Disk.writer] at h
    rcases hw : writeUnless refuse s d w with ⟨d', f' | u⟩
    · rw [hw] at h
      cases h
      exact isWrite_of_writeUnless htree (congrArg Prod.snd hw)
    · rw [hw] at h htree'
      exact isWrite_of_writeEach rest htree' h

theorem Outcome.ofFailure_inj {d d' : Disk} {events events' : List Event} {f f' : Failure}
    (h : Outcome.ofFailure d events f = .ofFailure d' events' f') :
    d = d' ∧ (f.IsWrite ↔ f'.IsWrite) := by
  obtain ⟨hcode, _, _, hcomplaint, hdisk⟩ := Outcome.mk.inj h
  have hmessage : f.message = f'.message := by
    rw [List.append_left_inj, List.append_right_inj] at hcomplaint
    exact hcomplaint
  rw [Failure.isWrite_iff, Failure.isWrite_iff, hcode, hmessage]
  exact ⟨hdisk, Iff.rfl⟩

theorem Outcome.disk_ofStage (output : Text) (x : Stage Unit) : (ofStage output x).disk = x.disk := by
  unfold ofStage
  split <;> rfl

theorem Outcome.of_ofStage_eq_ofFailure {output : Text} {x : Stage Unit} {d : Disk}
    {events : List Event} {f : Failure} (h : ofStage output x = .ofFailure d events f) :
    x.disk = d ∧ ∃ f', x.result = .error f' ∧ (f'.IsWrite ↔ f.IsWrite) := by
  unfold ofStage at h
  split at h
  · rename_i f' hf'
    obtain ⟨hdisk, hwrite⟩ := ofFailure_inj h
    exact ⟨hdisk, f', hf', hwrite⟩
  · -- no failure has the exit code of a run that succeeds
    have hcode : 0 = f.exitCode := congrArg Outcome.exitCode h
    cases f <;> cases hcode

theorem mem_saved_of_prepare {ws : List Writing} (h : c.prepare launch d = .ok ws) {w : Writing}
    (hw : w ∈ ws.dropLast) : w ∈ c.saved d := by
  obtain ⟨first, _, h⟩ := Attempt.bind_eq_ok_iff.1 h
  cases c with
  | v1 source output strict => cases output <;> cases h <;> cases hw
  | generate source openapi converter output strict =>
    cases converter with
    | none =>
      cases h
      cases hw
    | some o =>
      obtain ⟨⟨document, second⟩, hconvert, h⟩ := Attempt.bind_eq_ok_iff.1 h
      rw [Attempt.pure_eq_ok_iff] at h
      rw [h, List.dropLast_concat] at hw
      rw [Command.saved, loadPlace_of_convertDocument hconvert]
      cases hsave : o.save with
      | none =>
        rw [hsave] at hw
        cases hw
      | some path =>
        rw [hsave] at hw
        exact hw

/-- **A run that fails leaves the tree as it was, unless it fails to write; then the OpenAPI document
may have been saved, and directories made**, whatever the disk refuses.  Nothing is changed before
everything is generated.  On the way every place holds what it held, or a new directory, or the whole
of a text, but for one new file beside, which is gone in the end.  Where nothing is refused this is the
run of the library. -/
theorem failed_run_leaves_tree (refuse : Refusal) (launch : Launcher) (s : Staging) {d : Disk}
    (htree : d.IsTree) {args : List Text} {c : Command} (hparse : parse args = .ok (.run c))
    (hkeeps : c.KeepsDisk launch d) :
    runBy (Disk.writer (fun _ _ => none) s) launch d args = run launch d args ∧
    d.applyAll (c.changes refuse launch s d) =
      (runBy (Disk.writer refuse s) launch d args).disk ∧
    (∀ m ∈ d.passed (c.changes refuse launch s d), Passing s (c.writings launch d) d m) ∧
    ∀ disk events f, runBy (Disk.writer refuse s) launch d args = .ofFailure disk events f →
      (¬ f.IsWrite → c.changes refuse launch s d = [] ∧ disk = d) ∧
      (f.IsWrite → Kept (c.saved d) d disk) := by
  have hrun : ∀ write, runBy write launch d args = runCommand write launch d c := by
    intro write
    rw [runBy, hparse]
  have hcourse := course_writeEach refuse s (c.writings launch d) htree
  obtain ⟨before, output, hresult⟩ := runCommand_eq hkeeps
  rw [run, hrun, hrun, hrun, hresult, hresult, hresult]
  cases hprepare : c.prepare launch d with
  | error f =>
    have hwritings : c.writings launch d = [] := by rw [Command.writings, hprepare]; rfl
    rw [hwritings] at hcourse
    rw [Command.changes, hwritings]
    refine ⟨rfl, rfl, hcourse.passing, fun disk events f' h => ?_⟩
    obtain ⟨rfl, _⟩ := Outcome.ofFailure_inj h
    exact ⟨fun _ => ⟨rfl, rfl⟩, fun _ => (Kept.refl d).mono nofun⟩
  | ok ws =>
    have hwritings : c.writings launch d = ws := by rw [Command.writings, hprepare]; rfl
    rw [hwritings] at hcourse
    rw [Command.changes, hwritings]
    refine ⟨?_, ?_, hcourse.passing, fun disk events f h => ?_⟩
    · dsimp only
      rw [writeEach_never s ws htree]
    · rw [Outcome.disk_ofStage]
      exact hcourse.ends
    · obtain ⟨rfl, f', hf', hwrite⟩ := Outcome.of_ofStage_eq_ofFailure h
      have hfailed : f.IsWrite := hwrite.1 (isWrite_of_writeEach ws htree hf')
      have hkept := hcourse.kept
      have hfails : (writeEach (Disk.writer refuse s) ws d).result = .error f' := hf'
      rw [hfails] at hkept
      exact ⟨fun hnot => absurd hfailed hnot,
        fun _ => hkept.mono (fun w hw => mem_saved_of_prepare hprepare hw)⟩

/-! ## A run that cannot write its last text -/

theorem disk_run_of_tool {name : Text} {args : List Text} {program : Program} {tool : Tool}
    (hstart : Conversion.start d name args = .ok program)
    (htool : program.tool d (Octets.ofText name) = some tool) (document : Json) :
    (Conversion.run d name args document).1 = d := by
  rw [Conversion.run, hstart]
  simp only [Conversion.runProgram, htool]

/-- A file stands where the directory of the output would be. -/
def blockedDisk : Disk where
  entries :=
    [(["bin"], .directory), (["bin", "cat"], .file []), (["bin", "false"], .file []),
      (["work"], .directory), (["work", "in"], .directory),
      (["work", "in", "sections.json"], .file (Text.utf8 "\x7b\"sections\":[]\x7d")),
      (["work", "in", "errors.json"], .file (Text.utf8 "\x7b\"errors\":[]\x7d")),
      (["work", "api.json"], .file (Text.utf8 "\x7b\"openapi\":3\x7d")),
      (["work", "dist"], .file (Text.utf8 "no directory"))]
  home := ["work"]

def blockedArgs (converter : Text) : List Text :=
  ["generate", "--from-dir", "in", "--openapi", "api.json", "--converter", converter,
    "--save-openapi", "saved/api.json", "--output", "dist/index.ts"]

def blockedCommand (converter : Text) : Command :=
  .generate ⟨defaultBaseUrl, some "in", defaultTimeout⟩ "api.json"
    (some ⟨converter, [], some "saved/api.json"⟩) "dist/index.ts" false

theorem isTree_blockedDisk : blockedDisk.IsTree :=
  Disk.isTree_of_entries (by decide +kernel) (by decide +kernel)

theorem keepsDisk_blockedCommand {converter : Text} (program : Program) {tool : Tool}
    (hstart : Conversion.start blockedDisk converter [] = .ok program)
    (htool : program.tool blockedDisk (Octets.ofText converter) = some tool) :
    (blockedCommand converter).KeepsDisk Conversion.run blockedDisk :=
  fun document _ => disk_run_of_tool hstart htool document

theorem Outcome.eq_ofFailure {o : Outcome} {f : Failure}
    (h : (o.exitCode, o.output, o.complaint) = (f.exitCode, [], "Error: " ++ f.message ++ "\n")) :
    o = .ofFailure o.disk o.events f := by
  cases o
  simp only [Prod.mk.injEq] at h
  obtain ⟨rfl, rfl, rfl⟩ := h
  rfl

/-- With `cat` as the converter the OpenAPI document is saved and nothing else is; with `false` nothing
is written at all; and on a full disk no file is new. -/
theorem failed_run_leaves_tree_blocked :
    (∃ events disk, run Conversion.run blockedDisk (blockedArgs "cat") =
        .ofFailure disk events (.unwritable "dist/index.ts" .exists) ∧
      Kept [⟨"saved/api.json", "\x7b\n  \"openapi\": 3\n\x7d"⟩] blockedDisk disk ∧
      disk.entry? ["work", "saved", "api.json"] =
        some (.file (Text.utf8 "\x7b\n  \"openapi\": 3\n\x7d"))) ∧
    (∃ events, run Conversion.run blockedDisk (blockedArgs "false") =
      .ofFailure blockedDisk events (.conversion (.ended "false" (.code 1) []))) ∧
    ∃ events disk, runBy (Disk.writer Disk.fullDisk .inHome) Conversion.run blockedDisk
        (blockedArgs "cat") =
        .ofFailure disk events (.unwritable "saved/api.json" (.described "No space left on device")) ∧
      Kept [⟨"saved/api.json", "\x7b\n  \"openapi\": 3\n\x7d"⟩] blockedDisk disk ∧
      disk.entry? ["work", "saved", "api.json"] = none := by
  have hcat : parse (blockedArgs "cat") = .ok (.run (blockedCommand "cat")) := by decide +kernel
  have hcopies : (blockedCommand "cat").KeepsDisk Conversion.run blockedDisk :=
    keepsDisk_blockedCommand .copy (by decide +kernel) rfl
  have hsaved : (blockedCommand "cat").saved blockedDisk =
      [⟨"saved/api.json", "\x7b\n  \"openapi\": 3\n\x7d"⟩] := by decide +kernel
  have hfree := failed_run_leaves_tree (fun _ _ => none) Conversion.run .inHome isTree_blockedDisk
    hcat hcopies
  have hfull := failed_run_leaves_tree Disk.fullDisk Conversion.run .inHome isTree_blockedDisk
    hcat hcopies
  rw [hsaved] at hfree hfull
  refine ⟨?_, ?_, ?_⟩
  · have hrun := Outcome.eq_ofFailure (o := run Conversion.run blockedDisk (blockedArgs "cat"))
      (f := .unwritable "dist/index.ts" .exists) (by decide +kernel)
    have hkept := (hfree.2.2.2 _ _ _ (hfree.1.trans hrun)).2 ⟨_, _, rfl⟩
    exact ⟨_, _, hrun, hkept, by decide +kernel⟩
  · have hparse : parse (blockedArgs "false") = .ok (.run (blockedCommand "false")) := by
      decide +kernel
    have hkeeps : (blockedCommand "false").KeepsDisk Conversion.run blockedDisk :=
      keepsDisk_blockedCommand (.quiet 1) (by decide +kernel) rfl
    have hrun := Outcome.eq_ofFailure (o := run Conversion.run blockedDisk (blockedArgs "false"))
      (f := .conversion (.ended "false" (.code 1) [])) (by decide +kernel)
    have hfailed := failed_run_leaves_tree (fun _ _ => none) Conversion.run .inHome
      isTree_blockedDisk hparse hkeeps
    have hdisk := ((hfailed.2.2.2 _ _ _ (hfailed.1.trans hrun)).1 (by rintro ⟨_, _, ⟨⟩⟩)).2
    rw [hdisk] at hrun
    exact ⟨_, hrun⟩
  · have hrun := Outcome.eq_ofFailure
      (o := runBy (Disk.writer Disk.fullDisk .inHome) Conversion.run blockedDisk (blockedArgs "cat"))
      (f := .unwritable "saved/api.json" (.described "No space left on device")) (by decide +kernel)
    have hkept := (hfull.2.2.2 _ _ _ hrun).2 ⟨_, _, rfl⟩
    exact ⟨_, _, hrun, hkept, by decide +kernel⟩

end CommandLine
end ApiTypes
