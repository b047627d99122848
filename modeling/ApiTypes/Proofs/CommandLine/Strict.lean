import ApiTypes.CommandLine.Run
import ApiTypes.Proofs.Artifact.Sections
import ApiTypes.Proofs.Section.Diagnostics
/-!
# What the strict switch does

Every command line has a strict twin (`parse_strictly`).  The two runs make the artifact of the first
kind in the same way.  If there is nothing to warn of they are the same run; else the strict one ends
there, and its outcome says no more than how many warnings there were (`strict_gates`).
-/
namespace ApiTypes
namespace CommandLine

/-! ## A command line is read word by word -/

/-- The option that takes the next word, come what may. -/
def Progress.taker? (p : Progress) : Option Opt :=
  match p.pending with
  | some (o, none) => some o
  | _ => none

def Progress.option (p : Progress) (o : Opt) (value : Option Text) :
    Except UsageFault (Option Progress) :=
  match o.takesValue, value with
  | false, some v => .error (.unexpectedValue v o.text)
  | false, none => do
    let p ← p.resolve
    if o = .help then return none
    return some (← p.accept o [])
  | true, some v => do
    let p ← p.resolve
    return some (← p.accept o v)
  | true, none => do
    let p ← p.resolve
    return some { p with pending := some (o, none) }

/-- One word of a command line read, by what is known of the words before it; none if it asks for
help. -/
def advance (s : Subcommand) (arg : Text) (ended : Bool) (taker? : Option Opt) (p : Progress) :
    Except UsageFault (Option Progress) :=
  if ended then .error (.unexpectedArgument arg)
  else if (taker?.map Opt.takesAnything).getD false then
    .ok (some { p with pending := taker?.map (fun o => (o, some arg)) })
  else match shapeOf arg with
    | .hyphens => .ok (some { p with optionsEnded := true })
    | .long name value =>
      match s.options.find? (fun o => o.name = name) with
      | none => .error (.unexpectedArgument ("--" ++ name))
      | some o => p.option o value
    | .short c =>
      if c = 'h' then do
        let _ ← p.resolve
        return none
      else .error (.unexpectedArgument ['-', c])
    | .plain =>
      match taker? with
      | some o => .ok (some { p with pending := some (o, some arg) })
      | none => .error (.unexpectedArgument arg)

/-- **The words are read one by one.** -/
theorem readWords_cons (s : Subcommand) (p : Progress) (arg : Text) (rest : List Text) :
    readWords s p (arg :: rest) = (do
      match ← advance s arg p.optionsEnded p.taker? p with
      | some p => readWords s p rest
      | none => return .help) := by
  obtain ⟨given, pending, ended⟩ := p
  rw [readWords]
  unfold advance
  cases ended with
  | true => rfl
  | false =>
    -- a pending option without a value may take the word whatever its shape
    obtain _ | ⟨o, _ | v⟩ := pending
    case' some.none => cases htakes : o.takesAnything
    all_goals
      simp only [Progress.taker?, Option.map_none, Option.map_some, Option.getD_none,
        Option.getD_some, Bool.false_eq_true, if_false, if_true, *]
    case some.none.true => rfl
    all_goals
      cases shapeOf arg with
      | hyphens => rfl
      | long name value =>
        dsimp only
        cases s.options.find? (fun o => o.name = name) with
        | none => rfl
        | some o =>
          dsimp only
          rw [Progress.option.eq_def]
          cases o.takesValue <;> cases value <;> simp only [bind_assoc]
          · congr 1
            funext q
            split
            · rfl
            · rw [bind_assoc]
              rfl
          · rfl
          · rfl
          · rfl
      | short c =>
        dsimp only
        split
        · rw [bind_assoc]
          rfl
        · rfl
      | plain => rfl

/-! ## What was given before is looked at only to see whether it is given again -/

def Progress.behind (p : Progress) (g : Given) : Progress := { p with given := g :: p.given }

/-- A step from `p` to `q` in which options may have been given.  It is the same step with another
option given at the very beginning. -/
structure Framed {α : Type} (step : Progress → Except UsageFault α) (done : Progress → α)
    (p q : Progress) : Prop where
  step_eq : step p = .ok (done q)
  subset : p.given ⊆ q.given
  behind : ∀ g : Given, g.option ∉ q.given.map Given.option →
    step (p.behind g) = .ok (done (q.behind g))

namespace Framed

variable {α : Type} {first : Progress → Except UsageFault Progress}
  {second : Progress → Except UsageFault α} {done : Progress → α} {p q r : Progress}

theorem bind (h : Framed first id p q) (h' : Framed second done q r) :
    Framed (fun p => first p >>= second) done p r := by
  refine ⟨?_, fun g hg => h'.subset (h.subset hg), fun g hg => ?_⟩
  · exact Attempt.bind_eq_ok_iff.2 ⟨q, h.step_eq, h'.step_eq⟩
  · have hq : g.option ∉ q.given.map Given.option :=
      fun hmem => hg (List.map_subset _ h'.subset hmem)
    exact Attempt.bind_eq_ok_iff.2 ⟨q.behind g, h.behind g hq, h'.behind g hg⟩

theorem of_given_eq (u : Progress → Progress) (hgiven : (u p).given = p.given)
    (hbehind : ∀ g, u (p.behind g) = (u p).behind g) :
    Framed (fun p => .ok (done (u p))) done p (u p) :=
  ⟨rfl, hgiven ▸ List.Subset.refl _, fun g _ => by rw [hbehind]⟩

theorem accept {o : Opt} {value : Text} (h : p.accept o value = .ok q) :
    Framed (fun p => p.accept o value) id p q := by
  have haccept := h
  rw [Progress.accept, Attempt.guard_eq_ok_iff, Attempt.bind_eq_ok_iff] at h
  obtain ⟨hfresh, _, hvalue, hq⟩ := h
  rw [Attempt.pure_eq_ok_iff] at hq
  subst hq
  refine ⟨haccept, List.subset_append_left _ _, fun g hg => ?_⟩
  have hg : g.option ≠ o := fun ho => hg (by simp [ho])
  change Progress.accept _ _ _ = _
  rw [Progress.accept, Attempt.guard_eq_ok_iff, Attempt.bind_eq_ok_iff]
  refine ⟨?_, (), hvalue, rfl⟩
  rwa [Progress.behind, List.any_cons, decide_eq_false hg, Bool.false_or]

theorem resolve (h : p.resolve = .ok q) : Framed Progress.resolve id p q := by
  obtain ⟨given, _ | ⟨o, _ | value⟩, ended⟩ := p
  · cases h
    exact ⟨rfl, List.Subset.refl _, fun _ _ => rfl⟩
  · cases h
  · have haccept := accept h
    exact ⟨haccept.step_eq, haccept.subset, haccept.behind⟩

theorem option {o : Opt} {value : Option Text} (h : p.option o value = .ok (some q)) :
    Framed (fun p => p.option o value) some p q := by
  simp only [Progress.option.eq_def] at h ⊢
  cases htakes : o.takesValue <;> cases value <;> simp only [htakes] at h ⊢
  · obtain ⟨p', hresolve, h⟩ := Attempt.bind_eq_ok_iff.1 h
    refine (resolve hresolve).bind ?_
    split at h
    · cases h
    · rename_i hhelp
      obtain ⟨q', haccept, h⟩ := Attempt.bind_eq_ok_iff.1 h
      cases h
      simp only [if_neg hhelp]
      exact (accept haccept).bind (of_given_eq id rfl (fun _ => rfl))
  · cases h
  · obtain ⟨p', hresolve, h⟩ := Attempt.bind_eq_ok_iff.1 h
    cases h
    exact (resolve hresolve).bind (of_given_eq _ rfl (fun _ => rfl))
  · obtain ⟨p', hresolve, h⟩ := Attempt.bind_eq_ok_iff.1 h
    obtain ⟨q', haccept, h⟩ := Attempt.bind_eq_ok_iff.1 h
    cases h
    exact (resolve hresolve).bind ((accept haccept).bind (of_given_eq id rfl (fun _ => rfl)))

theorem advance {s : Subcommand} {arg : Text} {ended : Bool} {taker? : Option Opt}
    (h : CommandLine.advance s arg ended taker? p = .ok (some q)) :
    Framed (CommandLine.advance s arg ended taker?) some p q := by
  unfold CommandLine.advance at h ⊢
  split at h
  · cases h
  rename_i hended
  simp only [if_neg hended]
  split at h
  · rename_i htakes
    simp only [if_pos htakes]
    cases h
    exact of_given_eq _ rfl (fun _ => rfl)
  rename_i htakes
  simp only [if_neg htakes]
  cases hshape : shapeOf arg with
  | hyphens =>
    simp only [hshape] at h ⊢
    cases h
    exact of_given_eq _ rfl (fun _ => rfl)
  | long name value =>
    simp only [hshape] at h ⊢
    cases hoption : s.options.find? (fun o => o.name = name) with
    | none =>
      rw [hoption] at h
      cases h
    | some o =>
      rw [hoption] at h
      exact option h
  | short c =>
    simp only [hshape] at h
    split at h
    · obtain ⟨_, _, h⟩ := Attempt.bind_eq_ok_iff.1 h
      cases h
    · cases h
  | plain =>
    simp only [hshape] at h ⊢
    cases taker? with
    | none => cases h
    | some o =>
      cases h
      exact of_given_eq _ rfl (fun _ => rfl)

end Framed

/-- **With another option given at the very beginning the words come to the same options behind it**,
unless they give it again. -/
theorem readWords_behind (s : Subcommand) (g : Given) : ∀ (words : List Text) (p : Progress)
    (given : List Given), readWords s p words = .ok (.options given) →
      p.given ⊆ given ∧ (g.option ∉ given.map Given.option →
        readWords s (p.behind g) words = .ok (.options (g :: given)))
  | [], p, given, h => by
    rw [readWords] at h ⊢
    obtain ⟨q, hresolve, h⟩ := Attempt.bind_eq_ok_iff.1 h
    cases h
    have hframed := Framed.resolve hresolve
    refine ⟨hframed.subset, fun hg => ?_⟩
    exact Attempt.bind_eq_ok_iff.2 ⟨q.behind g, hframed.behind g hg, rfl⟩
  | arg :: rest, p, given, h => by
    rw [readWords_cons] at h ⊢
    obtain ⟨q?, hstep, h⟩ := Attempt.bind_eq_ok_iff.1 h
    cases q? with
    | none => cases h
    | some q =>
      have hframed := Framed.advance hstep
      obtain ⟨hsubset, hrest⟩ := readWords_behind s g rest q given h
      refine ⟨fun x hx => hsubset (hframed.subset hx), fun hg => ?_⟩
      have hq : g.option ∉ q.given.map Given.option :=
        fun hmem => hg (List.map_subset _ hsubset hmem)
      exact Attempt.bind_eq_ok_iff.2 ⟨_, hframed.behind g hq, hrest hg⟩

/-! ## The strict twin of a command line -/

def Command.strictly : Command → Command
  | .v1 source output _ => .v1 source output true
  | .generate source openapi converter output _ => .generate source openapi converter output true

theorem Command.source_strictly (c : Command) : c.strictly.source = c.source := by cases c <;> rfl

theorem Command.strict_strictly (c : Command) : c.strictly.strict = true := by cases c <;> rfl

theorem Command.deliver_strictly (write : Disk.Writer) (launch : Launcher) (d : Disk) (first : Text)
    (c : Command) : deliver write launch d first c.strictly = deliver write launch d first c := by
  cases c with
  | v1 source output strict => cases output <;> rfl
  | generate source openapi converter output strict => rfl

/-- A command line with the strict switch behind the name of its command. -/
def strictly : List Text → List Text
  | [] => []
  | name :: rest => name :: "--strict" :: rest

def strictGiven : Given := ⟨.strict, []⟩

theorem parseHelp_ne_run (words : List Text) (c : Command) : parseHelp words ≠ .ok (.run c) := by
  intro h
  cases words with
  | nil => cases h
  | cons name rest =>
    simp only [parseHelp] at h
    generalize (if name = helpWord then some Page.help
      else (Subcommand.named? name).map Page.command) = page? at h
    cases page? <;> cases rest <;> cases h

theorem parse_eq_run_iff {args : List Text} {c : Command} :
    parse args = .ok (.run c) ↔ ∃ name rest s, args = name :: rest ∧ name ≠ helpWord ∧
      Subcommand.named? name = some s ∧ parseCommand s rest = .ok (.run c) := by
  constructor
  · intro h
    cases args with
    | nil => cases h
    | cons name rest =>
      simp only [parse] at h
      split at h
      · exact absurd h (parseHelp_ne_run rest c)
      · rename_i hhelp
        cases hs : Subcommand.named? name with
        | some s =>
          rw [hs] at h
          exact ⟨name, rest, s, rfl, hhelp, hs, h⟩
        | none =>
          rw [hs] at h
          dsimp only at h
          repeat' split at h
          all_goals cases h
  · rintro ⟨name, rest, s, rfl, hhelp, hs, h⟩
    simp only [parse, if_neg hhelp, hs]
    exact h

theorem parseCommand_eq_run_iff {s : Subcommand} {words : List Text} {c : Command} :
    parseCommand s words = .ok (.run c) ↔ ∃ given, readWords s .initial words = .ok (.options given) ∧
      checkTogether given = .ok () ∧ c = commandOf s given := by
  rw [parseCommand, Attempt.bind_eq_ok_iff]
  constructor
  · rintro ⟨reading, hwords, h⟩
    cases reading with
    | help => cases h
    | options given =>
      obtain ⟨⟨⟩, htogether, h⟩ := Attempt.bind_eq_ok_iff.1 h
      cases h
      exact ⟨given, hwords, htogether, rfl⟩
  · rintro ⟨given, hwords, htogether, rfl⟩
    exact ⟨.options given, hwords, Attempt.bind_eq_ok_iff.2 ⟨(), htogether, rfl⟩⟩

theorem strict_commandOf (s : Subcommand) (given : List Given) :
    (commandOf s given).strict = isGiven given .strict := by
  cases s <;> rfl

theorem commandOf_strictGiven (s : Subcommand) (given : List Given) :
    commandOf s (strictGiven :: given) = (commandOf s given).strictly := by
  cases s <;> rfl

/-- **Every command line that is not strict has a strict twin**, which asks for the same command
otherwise. -/
theorem parse_strictly {args : List Text} {c : Command} (h : parse args = .ok (.run c))
    (hlax : c.strict = false) : parse (strictly args) = .ok (.run c.strictly) := by
  obtain ⟨name, rest, s, rfl, hhelp, hs, hrest⟩ := parse_eq_run_iff.1 h
  obtain ⟨given, hwords, htogether, rfl⟩ := parseCommand_eq_run_iff.1 hrest
  refine parse_eq_run_iff.2 ⟨name, _, s, rfl, hhelp, hs, ?_⟩
  refine parseCommand_eq_run_iff.2
    ⟨strictGiven :: given, ?_, htogether, (commandOf_strictGiven s given).symm⟩
  have hfresh : Opt.strict ∉ given.map Given.option := by
    rw [strict_commandOf, isGiven, List.any_eq_false] at hlax
    intro hmem
    obtain ⟨g, hg, hoption⟩ := List.mem_map.1 hmem
    exact hlax g hg (decide_eq_true hoption)
  have hswitch : advance s "--strict" false none .initial =
      .ok (some (Progress.initial.behind strictGiven)) := by
    cases s <;> rfl
  -- the switch is read first, and the other words go on as if it had been given all along
  rw [readWords_cons]
  refine Attempt.bind_eq_ok_iff.2 ⟨_, hswitch, ?_⟩
  exact (readWords_behind s strictGiven rest .initial given hwords).2 hfresh

end CommandLine

/-! ## What there is to warn of -/

/-- The node names a basic type by a token outside the vocabulary. -/
def Node.isUnlisted (n : Node) : Bool := n.remark?.isSome

def Artifact.shown (names : List Text) (schemas : Text → List Selection) : List Node :=
  names.flatMap (fun name => shownNodes name (schemas name))

theorem Artifact.diagnostics_ofBlocks (origin : Text) (errors : List ErrorEntry) (names : List Text)
    (schemas : Text → List Selection) :
    (ofBlocks origin errors (names.map (fun name => block name (schemas name)))).diagnostics =
      (shown names schemas).filterMap Node.remark? := by
  rw [ofBlocks, shown, List.flatMap_map, List.filterMap_flatMap]
  refine List.flatMap_congr (fun name _ => ?_)
  rw [diagnostics_block, diagnostics_sectionText_items, shownNodes, List.filterMap_flatMap]
  exact List.flatMap_congr (fun i _ => i.diagnostics_declare _)

theorem Node.severity_of_remark? {n : Node} {w : Diagnostic} (h : n.remark? = some w) :
    w.severity = .warning := by
  cases n with
  | primitive m token =>
    rw [remark?] at h
    split at h
    · cases h
    · cases h
      rfl
  | reference m id tag => cases h
  | object m fields => cases h
  | unknown m => cases h

theorem Diagnostic.warningCount_eq_length {ds : List Diagnostic}
    (h : ∀ w ∈ ds, w.severity = .warning) : warningCount ds = ds.length :=
  List.countP_eq_length.2 (fun w hw => decide_eq_true (h w hw))

theorem length_filterMap_remark? (nodes : List Node) :
    (nodes.filterMap Node.remark?).length = nodes.countP Node.isUnlisted := by
  rw [List.length_filterMap_eq_countP]
  rfl

namespace CommandLine

def Command.artifact (d : Disk) (c : Command) : Except Failure (Reported Text) :=
  openSource d c.source >>= Artifact.generate

theorem diagnostics_artifact {d : Disk} {c : Command} {r : Reported Text}
    (h : c.artifact d = .ok r) :
    (∀ w ∈ r.diagnostics, w.severity = .warning) ∧
    ∃ source names errors schemas, openSource d c.source = .ok source ∧
      source.Answers names errors schemas ∧
      r.diagnostics.length = (Artifact.shown names schemas).countP Node.isUnlisted := by
  obtain ⟨source, hsource, hr⟩ := Attempt.bind_eq_ok_iff.1 h
  obtain ⟨names, errors, schemas, hanswers⟩ := Artifact.exists_answers_of_generate hr
  rw [Artifact.generate_of_answers hanswers] at hr
  cases hr
  rw [Artifact.diagnostics_ofBlocks]
  refine ⟨fun w hw => ?_, source, names, errors, schemas, hsource, hanswers,
    length_filterMap_remark? _⟩
  obtain ⟨n, _, hn⟩ := List.mem_filterMap.1 hw
  exact Node.severity_of_remark? hn

/-! ## What is logged -/

theorem filterMap_remark (ws : List Diagnostic) :
    (ws.map Event.remark).filterMap Event.diagnostic? = ws := by
  rw [List.filterMap_map]
  exact List.filterMap_some

theorem filterMap_indexEvents (d : Disk) (s : SourceOptions) :
    (indexEvents d s).filterMap Event.diagnostic? = [] := by
  unfold indexEvents
  split <;> rfl

def Stage.Quiet {α : Type} (x : Stage α) : Prop := x.events.filterMap Event.diagnostic? = []

namespace Stage

variable {α β : Type}

theorem Quiet.andThen {x : Stage α} {next : Disk → α → Stage β} (h : x.Quiet)
    (hnext : ∀ d a, (next d a).Quiet) : (x.andThen next).Quiet := by
  unfold Stage.andThen
  split
  · exact h
  · exact (List.filterMap_append ..).trans (by rw [h, hnext, List.append_nil])

theorem quiet_writeLogged (write : Disk.Writer) (d : Disk) (path text : Text) :
    (writeLogged write d path text).Quiet := by
  unfold writeLogged
  split <;> rfl

theorem quiet_convertDocument (launch : Launcher) (d : Disk) (openapi : Text)
    (o : ConverterOptions) : (convertDocument launch d openapi o).Quiet := by
  unfold convertDocument
  split
  · rfl
  · rename_i document _
    simp only [Quiet]
    cases (launch d o.program o.args document).2 <;> rfl

theorem quiet_saveConverted (write : Disk.Writer) (d : Disk) (save : Option Text)
    (document : Json) : (saveConverted write d save document).Quiet := by
  cases save with
  | none => rfl
  | some path => exact quiet_writeLogged write d path _

theorem quiet_deliver (write : Disk.Writer) (launch : Launcher) (d : Disk) (first : Text) :
    ∀ c, (deliver write launch d first c).2.Quiet
  | .v1 _ none _ => rfl
  | .v1 _ (some path) _ => quiet_writeLogged write d path first
  | .generate _ _ none output _ => quiet_writeLogged write d output _
  | .generate _ openapi (some o) output _ =>
    (quiet_convertDocument launch d openapi o).andThen fun d' made =>
      (quiet_saveConverted write d' o.save made.1).andThen fun d' _ =>
        quiet_writeLogged write d' output _

end Stage

/-! ## The two runs -/

def logWords (w : Diagnostic) : Text := w.message.flatMap logChar ++ " code=" ++ w.code

theorem logText_eq (w : Diagnostic) : logText w = levelText w.severity ++ " " ++ logWords w := by
  simp only [logText, logWords, List.append_assoc]

def Outcome.ofWarnings (d : Disk) (events : List Event) (ws : List Diagnostic) : Outcome where
  exitCode := 1
  output := []
  events := events ++ ws.map (fun w => .remark w.escalate)
  complaint :=
    "Error: " ++ (Text.ofNat ws.length ++ " warning(s) reported in strict mode") ++ "\n"
  disk := d

theorem Outcome.log_ofWarnings {events : List Event} (ws : List Diagnostic)
    (h : events.filterMap Event.diagnostic? = []) (d : Disk) :
    (ofWarnings d events ws).log = ws.map Diagnostic.escalate := by
  have hremarks := filterMap_remark (ws.map Diagnostic.escalate)
  rw [List.map_map] at hremarks
  rw [log, ofWarnings, List.filterMap_append, h, List.nil_append]
  exact hremarks

theorem Outcome.events_ofStage (output : Text) (x : Stage Unit) :
    (ofStage output x).events = x.events := by
  unfold ofStage
  split <;> rfl

variable {write : Disk.Writer} {launch : Launcher} {d : Disk} {c : Command} {r : Reported Text}

theorem runCommand_of_artifact_error {f : Failure} (h : c.artifact d = .error f) :
    runCommand write launch d c = .ofFailure d (indexEvents d c.source) f := by
  rw [Command.artifact] at h
  rw [runCommand, checkedArtifact, h]

theorem runCommand_of_artifact (hlax : c.strict = false) (h : c.artifact d = .ok r) :
    runCommand write launch d c = .ofStage (deliver write launch d r.value c).1
      ((deliver write launch d r.value c).2.behind
        (indexEvents d c.source ++ r.diagnostics.map .remark)) := by
  rw [Command.artifact] at h
  rw [runCommand, checkedArtifact, h, hlax]
  rfl

/-- **A strict run ends before the artifact is delivered** if there is anything to warn of. -/
theorem runCommand_of_warnings (hstrict : c.strict = true) (h : c.artifact d = .ok r)
    (hwarnings : ∀ w ∈ r.diagnostics, w.severity = .warning) (hpos : 0 < r.diagnostics.length) :
    runCommand write launch d c = .ofWarnings d (indexEvents d c.source) r.diagnostics := by
  rw [Command.artifact] at h
  rw [runCommand, checkedArtifact, h, hstrict]
  have hcount := Diagnostic.warningCount_eq_length hwarnings
  simp only [hcount, hpos, if_true]
  rfl

theorem runCommand_strictly_of_quiet (hlax : c.strict = false) (h : c.artifact d = .ok r)
    (hquiet : r.diagnostics = []) :
    runCommand write launch d c.strictly = runCommand write launch d c := by
  rw [runCommand_of_artifact hlax h, hquiet]
  rw [Command.artifact] at h
  have hchecked : checkedArtifact d c.strictly.source c.strictly.strict =
      (indexEvents d c.source ++ [], .ok r.value) := by
    rw [c.source_strictly, c.strict_strictly, checkedArtifact, h]
    simp only [hquiet]
    rfl
  rewrite [runCommand, hchecked, ← c.deliver_strictly]
  rfl

theorem events_runCommand (write : Disk.Writer) (launch : Launcher) (hlax : c.strict = false)
    (h : c.artifact d = .ok r) : ∃ after, after.filterMap Event.diagnostic? = [] ∧
      (runCommand write launch d c).events =
        indexEvents d c.source ++ r.diagnostics.map .remark ++ after := by
  refine ⟨_, Stage.quiet_deliver write launch d r.value c, ?_⟩
  rw [runCommand_of_artifact hlax h, Outcome.events_ofStage, Stage.behind]

/-- What a strict run gives in place of one that is not strict, with `w` things to warn of. -/
structure HeldBack (d : Disk) (w : Nat) (lax strict : Outcome) : Prop where
  exitCode : strict.exitCode = 1
  output : strict.output = []
  complaint : strict.complaint =
    "Error: " ++ (Text.ofNat w ++ " warning(s) reported in strict mode") ++ "\n"
  disk : strict.disk = d
  log : ∃ messages : List Text, messages.length = w ∧
    lax.log.map logText = messages.map (fun t => levelText .warning ++ " " ++ t) ∧
    strict.log.map logText = messages.map (fun t => levelText .error ++ " " ++ t)
  /-- The strict run has logged what the other run logs before the diagnostics, and nothing behind
  them. -/
  events : ∃ before after, before.filterMap Event.diagnostic? = [] ∧
    after.filterMap Event.diagnostic? = [] ∧
    lax.events = before ++ lax.log.map .remark ++ after ∧
    strict.events = before ++ strict.log.map .remark

theorem heldBack_ofWarnings {lax : Outcome} {ws : List Diagnostic} {before after : List Event}
    (hwarnings : ∀ w ∈ ws, w.severity = .warning)
    (hbefore : before.filterMap Event.diagnostic? = [])
    (hafter : after.filterMap Event.diagnostic? = [])
    (hlax : lax.events = before ++ ws.map .remark ++ after) :
    HeldBack d ws.length lax (.ofWarnings d before ws) := by
  have hlog : lax.log = ws := by
    rw [Outcome.log, hlax, List.filterMap_append, List.filterMap_append, hbefore, hafter,
      filterMap_remark, List.nil_append, List.append_nil]
  have hstrict := Outcome.log_ofWarnings ws hbefore d
  refine ⟨rfl, rfl, rfl, rfl, ⟨ws.map logWords, List.length_map _, ?_, ?_⟩,
    before, after, hbefore, hafter, hlog ▸ hlax, ?_⟩
  · rw [hlog, List.map_map]
    refine List.map_congr_left (fun w hw => ?_)
    rw [logText_eq, hwarnings w hw]
    rfl
  · rw [hstrict, List.map_map, List.map_map]
    exact List.map_congr_left (fun w _ => logText_eq w.escalate)
  · rw [hstrict, List.map_map]
    rfl

/-- **Strictness only gates.**  A command line has a strict twin.  If the artifact of the first kind
cannot be made, the two runs end alike and log no diagnostic.  If there is nothing to warn of they are
the same, line by line of the log.  Else the strict run ends before anything is delivered: it writes
nothing, puts nothing out, logs as errors what the other run logs as warnings, and no converter,
OpenAPI document or way to write files could change that. -/
theorem strict_gates (write : Disk.Writer) (launch : Launcher) (d : Disk) {args : List Text}
    {c : Command} (hparse : parse args = .ok (.run c)) (hlax : c.strict = false) :
    parse (strictly args) = .ok (.run c.strictly) ∧
    ∀ args', parse args' = .ok (.run c.strictly) →
      (∀ f, c.artifact d = .error f → ∃ events, events.filterMap Event.diagnostic? = [] ∧
        runBy write launch d args = .ofFailure d events f ∧
        runBy write launch d args' = .ofFailure d events f) ∧
      ∀ r, c.artifact d = .ok r → ∃ source names errors schemas w,
        (openSource d c.source = .ok source ∧ source.Answers names errors schemas ∧
          w = Diagnostic.warningCount r.diagnostics ∧
          w = (Artifact.shown names schemas).countP Node.isUnlisted) ∧
        (w = 0 → runBy write launch d args' = runBy write launch d args) ∧
        (0 < w → HeldBack d w (runBy write launch d args) (runBy write launch d args') ∧
          ∀ write' launch' d' c', c'.strict = true → Command.artifact d' c' = .ok r →
            runCommand write' launch' d' c' = { runBy write launch d args' with
              disk := d'
              events := indexEvents d' c'.source ++
                (runBy write launch d args').log.map .remark }) := by
  refine ⟨parse_strictly hparse hlax, fun args' hparse' => ?_⟩
  have hrun : runBy write launch d args = runCommand write launch d c := by rw [runBy, hparse]
  have hrun' : runBy write launch d args' = runCommand write launch d c.strictly := by
    rw [runBy, hparse']
  have hartifact : c.strictly.artifact d = c.artifact d := by
    rw [Command.artifact, Command.artifact, c.source_strictly]
  rw [hrun, hrun']
  refine ⟨fun f hf => ⟨_, filterMap_indexEvents d c.source, ?_, ?_⟩, fun r hr => ?_⟩
  · exact runCommand_of_artifact_error hf
  · rw [runCommand_of_artifact_error (hartifact.trans hf), c.source_strictly]
  · obtain ⟨hwarnings, source, names, errors, schemas, hsource, hanswers, hcount⟩ :=
      diagnostics_artifact hr
    refine ⟨source, names, errors, schemas, r.diagnostics.length,
      ⟨hsource, hanswers, (Diagnostic.warningCount_eq_length hwarnings).symm, hcount⟩,
      fun hzero => ?_, fun hpos => ?_⟩
    · exact runCommand_strictly_of_quiet hlax hr (List.eq_nil_of_length_eq_zero hzero)
    · obtain ⟨after, hafter, hevents⟩ := events_runCommand write launch hlax hr
      have hbefore := filterMap_indexEvents d c.source
      rw [runCommand_of_warnings c.strict_strictly (hartifact.trans hr) hwarnings hpos,
        c.source_strictly]
      refine ⟨heldBack_ofWarnings hwarnings hbefore hafter hevents,
        fun write' launch' d' c' hc' hr' => ?_⟩
      rw [runCommand_of_warnings hc' hr' hwarnings hpos, Outcome.log_ofWarnings _ hbefore,
        List.map_map]
      rfl

def oddDisk : Disk where
  entries :=
    [(["bin"], .directory), (["bin", "cat"], .file []),
      (["work"], .directory), (["work", "in"], .directory), (["work", "in", "schema"], .directory),
      (["work", "in", "sections.json"], .file (Text.utf8 "\x7b\"sections\":[\"user\"]\x7d")),
      (["work", "in", "errors.json"], .file (Text.utf8 "\x7b\"errors\":[]\x7d")),
      (["work", "in", "schema", "user.json"], .file (Text.utf8
        "\x7b\"selections\":[\x7b\"name\":\"odd\",\"schema\":\x7b\"a\":\x7b\"type\":\"blob\"\x7d\x7d\x7d]\x7d")),
      (["work", "api.json"], .file (Text.utf8 "\x7b\"openapi\":3\x7d"))]
  home := ["work"]

def oddArgs : List Text :=
  ["generate", "--from-dir", "in", "--openapi", "api.json", "--converter", "cat", "--output", "out.ts"]

def oddCommand : Command :=
  .generate ⟨defaultBaseUrl, some "in", defaultTimeout⟩ "api.json" (some ⟨"cat", [], none⟩) "out.ts"
    false

theorem strict_gates_odd :
    parse oddArgs = .ok (.run oddCommand) ∧ oddCommand.strict = false ∧
    (run Conversion.run oddDisk oddArgs).exitCode = 0 ∧
    ((run Conversion.run oddDisk oddArgs).events.take 3).map Event.text =
      ["INFO fetched V1 index sections=1 errors=0", "WARN Unknown type: blob code=W001",
        "INFO converted OpenAPI document bytes=13"] ∧
    HeldBack oddDisk 1 (run Conversion.run oddDisk oddArgs)
      (run Conversion.run oddDisk (strictly oddArgs)) := by
  have hparse : parse oddArgs = .ok (.run oddCommand) := by decide +kernel
  have hwarnings : (oddCommand.artifact oddDisk).map (fun r => Diagnostic.warningCount r.diagnostics) =
      .ok 1 := by
    decide +kernel
  refine ⟨hparse, rfl, by decide +kernel, by decide +kernel, ?_⟩
  cases hr : oddCommand.artifact oddDisk with
  | error f =>
    rw [hr] at hwarnings
    cases hwarnings
  | ok r =>
    obtain ⟨htwin, hruns⟩ := strict_gates Disk.writeText Conversion.run oddDisk hparse rfl
    obtain ⟨_, _, _, _, w, ⟨_, _, hw, _⟩, _, hheld⟩ := (hruns _ htwin).2 r hr
    rw [hr] at hwarnings
    have hone : w = 1 := hw.trans (Except.ok.inj hwarnings)
    subst hone
    exact (hheld Nat.one_pos).1

end CommandLine
end ApiTypes
