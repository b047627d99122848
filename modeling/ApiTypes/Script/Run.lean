import ApiTypes.Script.Builtin
import ApiTypes.Script.Redirect
/-!
# Running scripts

A command is run step by step on the state of a shell.  Parts that stand apart, such as the commands
of a pipeline, run one after the other, each with all that the one before it wrote as its input.
Everything that needs another command to be run is given a bound for the depth.
-/
namespace ApiTypes
namespace Script

structure Mode where
  /-- Whether something depends on how the command ends, so that it may fail. -/
  tested : Bool
  /-- Whether it is the last thing that its session does. -/
  final : Bool

namespace Mode

def plain : Mode := ⟨false, false⟩

def test : Mode := ⟨true, false⟩

def first (m : Mode) : Mode := { m with final := false }

end Mode

/-! ## Sessions of their own -/

/-- A copy of a session for a part that stands apart. -/
def Session.copy (s : Session) (number : Nat) : Session :=
  { s with number := number, loops := 0, traps := s.traps.filter (fun t => t.2.isEmpty) }

def ownVariables : List (Octets × Variable) :=
  let fixed (name value : Octets) : Octets × Variable := (name, ⟨some value, false, false⟩)
  [fixed "IFS" " \t\n", fixed "OPTIND" "1", fixed "PS1" "# ", fixed "PS2" "> ", fixed "PS4" "+ ",
    fixed "PPID" "1"]

/-- The session of a shell that starts; of what was around it, it keeps the exported variables, the
place and the streams. -/
def Session.fresh (number : Nat) (name : Octets) (given : List (Octets × Variable)) (place : Place)
    (streams : List (Nat × Nat)) : Session where
  number := number
  shell := number
  name := name
  arguments := []
  bindings := given.filter (fun v => v.2.exported && (find? v.1 ownVariables).isNone)
    ++ ownVariables
  functions := []
  place := place
  streams := streams
  settings := []
  status := 0
  resultStatus := 0
  line := 0
  caller := none
  loops := 0
  covered := []
  traps := []
  background := []

namespace Step

def noticeSignals (runTrap : Octets → Step Unit) : Step Unit := do
  let s ← session
  let (mine, others) := (← world).signals.partition (fun e => e.1 = s.number)
  if !mine.isEmpty then
    alterWorld fun w => { w with signals := others }
    for (_, signal) in mine do
      match find? signal.number s.traps with
      | none => throw (.gone (.signal signal))
      | some action =>
        if signal = Signal.kill then throw (.gone (.signal signal))
        if !action.isEmpty then
          runTrap action
          setStatus s.status

/-- A signal that has arrived ends the session if nothing else is to be done about it. -/
def dieOfSignals : Step Unit := do
  let s ← session
  for (number, signal) in (← world).signals do
    if number = s.number && (signal = Signal.kill || (find? signal.number s.traps).isNone) then
      throw (.gone (.signal signal))

def toEnd (runTrap : Octets → Step Unit) (body : Step Unit) : Step ExitStatus := do
  let goneFrom (body : Step Unit) : Step (Option ExitStatus) :=
    tryCatch (do body; noticeSignals runTrap; return none) fun
      | .leave n => do setStatus n; return none
      | .fault n => do setStatus n; return none
      | .comeBack n => do setStatus n; return none
      | .leaveLoops _ => return none
      | .nextRound _ => return none
      | .gone e => return some e
      | .exhausted => throw .exhausted
  match ← goneFrom body with
  | some e => return e
  | none =>
    let s ← session
    let action := (find? 0 s.traps).getD []
    if action.isEmpty then return .code (s.status % 256)
    else
      alter fun s => { s with traps := without 0 s.traps }
      let ended ← goneFrom (do runTrap action; setStatus s.status)
      return ended.getD (.code ((← session).status % 256))

def apart (runTrap : Octets → Step Unit) (own : Nat → Session → Session) (body : Step Unit) :
    Step ExitStatus := do
  let outer ← session
  alterWorld fun w => { w with sessions := w.sessions + 1 }
  let number := (← world).sessions
  alter (own number)
  let e ← toEnd runTrap body
  alter fun _ => outer
  return e

/-- Runs a body, and puts something in order behind it also where a loop or a function is left. -/
def andThen {α : Type} (body : Step α) (order : Step Unit) : Step α := do
  let a ← tryCatch body fun
    | .leaveLoops n => do order; throw (.leaveLoops n)
    | .nextRound n => do order; throw (.nextRound n)
    | .comeBack n => do order; throw (.comeBack n)
    | ending => throw ending
  order
  return a

/-- One round of a loop, which may find that there is none: whether the loop goes on, and how it
ends if it does not. -/
def round (last : Nat) (body : Step (Option Nat)) : Step (Bool × Nat) := do
  let loops := (← session).loops
  let back : Step Unit := alter fun s => { s with loops := loops }
  tryCatch (do
    match ← body with
    | some n => return (true, n)
    | none => return (false, last)) fun
    | .leaveLoops n => do
      back
      if n ≤ 1 then return (false, 0) else throw (.leaveLoops (n - 1))
    | .nextRound n => do
      back
      if n ≤ 1 then return (true, 0) else throw (.nextRound (n - 1))
    | ending => throw ending

def inLoop (rounds : Step Nat) : Step Nat := do
  alter fun s => { s with loops := s.loops + 1 }
  let n ← rounds
  alter fun s => { s with loops := s.loops - 1 }
  return n

/-! ## Programs -/

def directories (t : Octets) : List Octets := Text.pieces (· = ':') t

/-- The path under which a program is found in some directories, and the program. -/
def searched (d : Disk) (name : Octets) (fault : FileFault) :
    List Octets → Except FileFault (Octets × Program)
  | [] => .error fault
  | directory :: rest =>
    let path := if directory.isEmpty then name else directory ++ '/' :: name
    match Program.ofPath d path.toText with
    | .ok program => .ok (path, program)
    | .error .notFound => searched d name fault rest
    | .error .notDirectory => searched d name fault rest
    | .error other => searched d name other rest

def program? (name : Octets) : Step (Except FileFault (Octets × Program)) := do
  let d ← disk
  if name.contains '/' then return (Program.ofPath d name.toText).map (fun p => (name, p))
  else
    let path := (← valueOf? "PATH").getD []
    return searched d name .notFound (directories path)

def refused (name : Octets) (fault : FileFault) : Octets × Nat :=
  let isMissing : Bool := fault = .notFound || fault = .notDirectory
  let words := if isMissing then "not found".toList else Octets.ofText fault.words
  (name ++ ": " ++ words, if isMissing || fault = .nameTooLong then 127 else 126)

def runTool (name : Octets) (tool : Tool) (args : List Octets) : Step ExitStatus := do
  let finished := tool args (← pending 0)
  leaveUnread 0 finished.unread
  let mut status := finished.status
  for (output, text) in finished.written do
    let written ← write (match output with
      | .results => 1
      | .remarks => 2) text
    if !written && !text.isEmpty && output = .results && status = Tool.success then
      let _ ← write 2 (name ++ ": write error: Bad file descriptor\n")
      status := .code 1
  return status

/-! ## What is called -/

inductive Called where
  | function (body : Command)
  | builtin (b : Builtin)
  /-- Runs a text. -/
  | evaluation
  /-- Runs a file in this shell. -/
  | inclusion
  /-- Puts a program in the place of the shell. -/
  | replacement
  /-- Runs a command that is no function. -/
  | detour
  /-- Says what names stand for. -/
  | description
  | program

/-- Whether a failure of what is called ends the shell. -/
def Called.isSpecial : Called → Bool
  | .builtin b => b.isSpecial
  | .evaluation => true
  | .inclusion => true
  | .replacement => true
  | _ => false

def calledBuiltin? (name : Octets) : Option Called :=
  if name = "eval".toList then some .evaluation
  else if name = "." then some .inclusion
  else if name = "exec".toList then some .replacement
  else if name = "command".toList then some .detour
  else if name = "type".toList then some .description
  else (find? name Builtin.all).map Called.builtin

def called (name : Octets) (functions : Bool) : Step Called := do
  let s ← session
  match if functions then find? name s.functions else none with
  | some body => return .function body
  | none => return (calledBuiltin? name).getD .program

def describe (inWords : Bool) (name : Octets) : Step Nat := do
  let say (words short : Octets) : Step Nat :=
    Builtin.put ((if inWords then name ++ words else short) ++ ['\n'])
  if Keyword.all.any (fun k => k.text = name) then say " is a shell keyword" name
  else
    match ← called name true with
    | .function _ => say " is a shell function" name
    | .program =>
      let found ← program? name
      match found with
      | .ok (path, _) => say (" is " ++ path) path
      | .error fault =>
        let isThere := name.contains '/' && ((← disk).entryAt (Path.ofText name.toText)).isOk
        if isThere then say (" is " ++ name) name
        else
          if inWords then
            let _ ← Builtin.put (name ++ ": not found\n")
          let _ := fault
          return 127
    | c => say (if c.isSpecial then " is a special shell builtin" else " is a shell builtin") name

/-- Runs a built-in command under its name.  If it fails, the shell goes on, unless it is special. -/
def asBuiltin (name : Octets) (isSpecial : Bool) (body : Step Nat) : Step Nat := do
  let outer := (← session).caller
  let back : Step Unit := alter fun s => { s with caller := outer }
  alter fun s => { s with caller := some name }
  let n ← tryCatch body fun
    | .fault n => if isSpecial then throw (.fault n) else return n
    | .leave n => throw (.leave n)
    | ending => do back; throw ending
  back
  return n

def functionLimit : Nat := 1000

def asFunction (args : List Octets) (body : Step Nat) : Step Nat := do
  let outer ← session
  if functionLimit ≤ outer.covered.length then
    fail ("Maximum function recursion depth (" ++ Text.ofNat functionLimit ++ ") reached")
  alter fun s => { s with arguments := args, loops := 0, covered := [] :: s.covered }
  let back : Step Unit := do
    match (← session).covered with
    | frame :: _ => for (name, v) in frame do restore name v
    | [] => pure ()
    alter fun s =>
      { s with arguments := outer.arguments, loops := outer.loops, covered := outer.covered }
  let n ← tryCatch body fun
    | .comeBack n => return n
    | ending => do back; throw ending
  back
  return n

def scriptFile (path : Octets) : Step (Except FileFault Octets) := do
  match (← disk).entryAt (Path.ofText path.toText) with
  | .ok (.file contents) => return .ok (Octets.ofBytes contents)
  | .ok (.stream n) =>
    let text ← pending n
    leaveUnread n []
    return .ok text
  | .ok _ => return .ok []
  | .error fault => return .error fault

def included (name : Octets) : Step (Octets × Octets) := do
  if name.contains '/' then
    match ← scriptFile name with
    | .ok text => return (name, text)
    | .error fault => fail (Lead.refusal .read name fault)
  else
    let d ← disk
    let paths := (directories ((← valueOf? "PATH").getD [])).map fun directory =>
      if directory.isEmpty then name else directory ++ '/' :: name
    let isFile (path : Octets) : Bool := match d.entryAt (Path.ofText path.toText) with
      | .ok (.file _) => true
      | _ => false
    match paths.find? isFile with
    | some path =>
      match ← scriptFile path with
      | .ok text => return (path, text)
      | .error fault => fail (Lead.refusal .read path fault)
    | none => fail (name ++ ": not found")

/-- Shows a command before it is run, on the stream for remarks as it was before. -/
def trace (streams : List (Nat × Nat)) (words : List Octets) : Step Unit := do
  if ← isSet .traced then
    let mark := (← valueOf? "PS4").getD []
    let now := (← session).streams
    alter fun s => { s with streams := streams }
    let _ ← write 2 (mark ++ Text.join [' '] words ++ ['\n'])
    alter fun s => { s with streams := now }

def showLines (t : Octets) : Step Unit := do
  if ← isSet (.other 'v' "verbose") then
    let _ ← write 2 t

end Step

def linesUpTo : (more : Nat) → Octets → Octets
  | _, [] => []
  | more, c :: rest =>
    if c ≠ '\n' then c :: linesUpTo more rest
    else
      match more with
      | 0 => [c]
      | more + 1 => c :: linesUpTo more rest

namespace Expansion

/-- The fields of the first words that give any, and the words behind them. -/
def firstFields (e : Expansion) (fuel : Nat) : List Word → Step (List Octets × List Word)
  | [] => return ([], [])
  | w :: rest => do
    let found ← e.fields fuel w
    if found.isEmpty then firstFields e fuel rest else return (found, rest)

/-- What `command` is to run, if that is all it is told: whether there is something, the arguments
from it on, or else all of them, and the words behind them. -/
def detour (e : Expansion) (fuel : Nat) :
    (steps : Nat) → (taken args : List Octets) → List Word →
      Step (Bool × List Octets × List Word)
  | 0, taken, args, rest => return (false, taken ++ args, rest)
  | steps + 1, taken, args, rest => do
    match args with
    | [] =>
      let (found, behind) ← e.firstFields fuel rest
      if found.isEmpty then return (false, taken, behind)
      else detour e fuel steps taken found behind
    | ['-', '-'] :: [] =>
      let (found, behind) ← e.firstFields fuel rest
      return (!found.isEmpty, if found.isEmpty then taken ++ args else found, behind)
    | ['-', '-'] :: more => return (true, more, rest)
    | ('-' :: c :: letters) :: more =>
      if (c :: letters).all (· = 'p') then
        detour e fuel steps (taken ++ ['-' :: c :: letters]) more rest
      else return (false, taken ++ args, rest)
    | _ => return (true, args, rest)

def otherFields (e : Expansion) (fuel : Nat) (assigns : Bool) : List Word → Step (List Octets)
  | [] => return []
  | w :: rest => do
    let found ← match if assigns then assignment? w else none with
      | some (name, value) => do pure [name ++ '=' :: (← e.whole fuel value)]
      | none => e.fields fuel w
    return found ++ (← otherFields e fuel assigns rest)

end Expansion

/-! ## Commands -/

mutual

def expansion : (fuel : Nat) → Expansion
  | 0 => ⟨fun _ => throw .exhausted, true⟩
  | fuel + 1 =>
    { results := fun body => do
        let channel ← Step.openChannel .collector
        let e ← Step.apart (fun t => runTrap fuel t) (fun number s => s.copy number) do
          Step.alter fun s => { s with streams := replaced 1 channel s.streams }
          let n ← match body with
            | .nothing => pure 0
            | _ => perform fuel ⟨false, true⟩ body
          Step.setStatus n
        Step.dieOfSignals
        let n ← Builtin.statusOf e
        Step.alter fun s => { s with resultStatus := n }
        Step.collect channel
      cuts := true }

def runTrap : (fuel : Nat) → Octets → Step Unit
  | 0, _ => throw .exhausted
  | fuel + 1, t => do
    let _ ← runLines fuel false false (Source.ofText t 1 []) 0

/-- Runs the lines of a script one after the other; `fromFile` holds unless the script is a text. -/
def runLines : (fuel : Nat) → (tested fromFile : Bool) → Source → (last : Nat) → Step Nat
  | 0, _, _, _, _ => throw .exhausted
  | fuel + 1, tested, fromFile, source, last => do
    let documents := (← Step.world).documents
    match readLine { source with documents := documents, numbered := documents.length } with
    | .error fault =>
      if fromFile then Step.showLines (linesUpTo (fault.line - source.line) source.rest)
      Step.alter fun s => { s with line := fault.line }
      Step.fail ("Syntax error: " ++ fault.cause.message)
    | .ok (none, _) => return last
    | .ok (some command, rest) =>
      if fromFile then
        Step.showLines (source.rest.take (source.rest.length - rest.rest.length))
      Step.alterWorld fun w => { w with documents := rest.documents }
      match command with
      | .nothing => runLines fuel tested fromFile rest last
      | _ =>
        let n ← perform fuel ⟨tested, false⟩ command
        runLines fuel tested fromFile rest n

def startShell : (fuel : Nat) → List Octets → Step Unit
  | 0, _ => throw .exhausted
  | fuel + 1, args => do
    let run (fromFile : Bool) (t : Octets) : Step Unit := do
      Step.setStatus (← runLines fuel false fromFile (Source.ofText t 1 []) 0)
    let runInput : Step Unit := do
      let text ← Step.pending 0
      Step.leaveUnread 0 []
      run true text
    match SettingsRead.ofArguments true [] args with
    | .error words => Step.fail words
    | .ok r =>
      let readsInput := r.settings.any (fun s => s = .other 's' "stdin") || r.rest.isEmpty
      let asInput : List Setting :=
        if readsInput then Setting.turn true (.other 's' "stdin") r.settings else r.settings
      match r.script, r.rest with
      | true, [] => Step.fail "-c requires an argument"
      | true, text :: rest =>
        let name := (rest.head?).getD (← Step.session).name
        Step.alter fun s =>
          { s with settings := r.settings, name := name, arguments := rest.drop 1 }
        run false text
        if readsInput then runInput
      | false, file :: rest =>
        if readsInput then
          Step.alter fun s => { s with settings := asInput, arguments := r.rest }
          runInput
        else
          match ← Step.scriptFile file with
          | .error fault => Step.fail (Lead.refusal .read file fault)
          | .ok text =>
            Step.alter fun s =>
              { s with settings := r.settings, name := file, arguments := rest }
            run true text
      | false, [] =>
        Step.alter fun s => { s with settings := asInput }
        runInput

def runProgram : (fuel : Nat) → Program → List Octets → Step ExitStatus
  | 0, _, _ => throw .exhausted
  | fuel + 1, program, args => do
    let name := (args.head?).getD []
    match program.tool (← Step.disk) name with
    | some tool => Step.runTool name tool args.tail
    | none =>
      Step.apart (fun t => runTrap fuel t)
        (fun number s => Session.fresh number name s.bindings s.place s.streams)
        (startShell fuel args.tail)

/-- Runs what has been called with arguments, of which the first is its name. -/
def call : (fuel : Nat) → Mode → Step.Called → (isSpecial : Bool) → List Octets → Step Nat
  | 0, _, _, _, _ => throw .exhausted
  | fuel + 1, mode, c, isSpecial, args => do
    let name := (args.head?).getD []
    let asBuiltin (body : Step Nat) : Step Nat := Step.asBuiltin name isSpecial body
    match c with
    | .function body => Step.asFunction args.tail (perform fuel mode.first body)
    | .builtin b => asBuiltin (b.run args.tail)
    | .evaluation => asBuiltin do
        runLines fuel mode.tested false (Source.ofText (Text.join [' '] args.tail) 1 []) 0
    | .inclusion => asBuiltin do
        match (← Builtin.takeLetters [] args.tail).2 with
        | [] => return 0
        | file :: _ =>
          let (path, text) ← Step.included file
          Step.alter fun s => { s with caller := some path }
          tryCatch (runLines fuel false true (Source.ofText text 1 []) 0) fun
            | .comeBack n => return n
            | ending => throw ending
    | .replacement => asBuiltin do
        match args.tail with
        | [] => return 0
        | name :: _ =>
          match ← Step.program? name with
          | .ok (_, program) => throw (.gone (← runProgram fuel program args.tail))
          | .error fault =>
            let (words, status) := Step.refused name fault
            Step.remark words
            throw (.leave status)
    | .detour => asBuiltin do
        let (letters, rest) ← Builtin.takeLetters ['p', 'v', 'V'] args.tail
        let asked := letters.filter (· ≠ 'p')
        match asked.isEmpty, rest with
        | false, name :: _ => Step.describe (asked.contains 'V') name
        | _, _ => return 0
    | .description => asBuiltin do
        let mut status := 0
        for name in args.tail do
          status := max status (← Step.describe true name)
        return status
    | .program =>
      match ← Step.program? name with
      | .ok (_, program) =>
        let e ← runProgram fuel program args
        if mode.final && (← Step.session).traps.isEmpty then throw (.gone e)
        else Builtin.statusOf e
      | .error fault =>
        let (words, status) := Step.refused name fault
        Step.remark words
        return if name.contains '/' then status else 127

def simple : (fuel : Nat) → Mode → (line : Nat) → List (Octets × Word) → List Word →
    List Redirection → Step Nat
  | 0, _, _, _, _, _ => throw .exhausted
  | fuel + 1, mode, line, assignments, words, redirections => do
    let e := expansion fuel
    Step.alter fun s => { s with line := line, resultStatus := 0 }
    let (args, rest) ← e.firstFields fuel words
    let isDetour : Bool := args.head? = some "command".toList
    let firstCalled ← Step.called ((args.head?).getD []) true
    let isFunction : Bool := match firstCalled with
      | .function _ => true
      | _ => false
    let (found, args, rest) ←
      if isDetour && !isFunction then
        e.detour fuel (words.length + args.length + 2) (args.take 1) args.tail rest
      else pure (false, args, rest)
    let target ← if found then Step.called ((args.head?).getD []) false else pure firstCalled
    let assigns : Bool := match target with
      | .builtin b => b.assigns
      | _ => false
    let args := args ++ (← e.otherFields fuel assigns rest)
    let leads ← redirections.mapM (Lead.ofRedirection e fuel)
    let before := (← Step.session).streams
    let refusal ← Lead.applySafely leads
    let back : Step Unit := Lead.undo leads before
    let isSpecial : Bool := !args.isEmpty && firstCalled.isSpecial
    if refusal ≠ 0 then
      back
      if isSpecial then throw (.fault refusal) else return refusal
    else
      let isLocal : Bool := !args.isEmpty && !isSpecial
      let isReplaced : Bool := match target with
        | .replacement => !args.isEmpty
        | _ => false
      let mut covered : List (Octets × Option Variable) := []
      let mut shown : List Octets := []
      for (name, value) in assignments do
        let t ← e.whole fuel value
        covered := (name, find? name (← Step.session).bindings) :: covered
        Step.assign name t (isLocal || (isReplaced && 1 < args.length))
        shown := shown ++ [name ++ '=' :: t]
      Step.trace before (shown ++ args)
      let saved := covered
      let order : Step Unit := do
        if isLocal then for (name, v) in saved do Step.restore name v
        if !isReplaced then back
      Step.andThen
        (if args.isEmpty then do return (← Step.session).resultStatus
        else call fuel mode target isSpecial args) order

/-- Runs commands joined by pipes, the input of the first one being what it is. -/
def pipeline : (fuel : Nat) → Mode → (input : Option Nat) → List Command → Step Nat
  | 0, _, _, _ => throw .exhausted
  | _, _, _, [] => return 0
  | fuel + 1, mode, input, command :: rest => do
    let channel ← if rest.isEmpty then pure none else do pure (some (← Step.openChannel .collector))
    let e ← Step.apart (fun t => runTrap fuel t) (fun number s => s.copy number) do
      Step.alter fun s =>
        let streams := match input with
          | some n => replaced 0 n s.streams
          | none => s.streams
        { s with streams := match channel with
            | some n => replaced 1 n streams
            | none => streams }
      Step.setStatus (← perform fuel ⟨mode.tested, true⟩ command)
    let n ← Builtin.statusOf e
    match channel with
    | none => return n
    | some c =>
      let next ← Step.openChannel (.source (← Step.collect c))
      pipeline fuel mode (some next) rest

def loopRounds : (fuel : Nat) → Mode → (wanted : Bool) → (test body : Command) → (last : Nat) →
    Step Nat
  | 0, _, _, _, _, _ => throw .exhausted
  | fuel + 1, mode, wanted, test, body, last => do
    let (goes, n) ← Step.round last do
      let n ← perform fuel .test test
      if decide (n = 0) = wanted then return some (← perform fuel mode body) else return none
    if goes then loopRounds fuel mode wanted test body n else return n

def eachRound : (fuel : Nat) → Mode → (name : Octets) → (body : Command) → (last : Nat) →
    List Octets → Step Nat
  | 0, _, _, _, _, _ => throw .exhausted
  | _, _, _, _, last, [] => return last
  | fuel + 1, mode, name, body, last, t :: rest => do
    Step.assign name t false
    let (goes, n) ← Step.round last do return some (← perform fuel mode body)
    if goes then eachRound fuel mode name body n rest else return n

def chosen : (fuel : Nat) → Octets → List (List Word × Command) → Step (Option Command)
  | 0, _, _ => throw .exhausted
  | _, _, [] => return none
  | fuel + 1, t, ([], _) :: rest => chosen fuel t rest
  | fuel + 1, t, (w :: others, body) :: rest => do
    let pattern := Pattern.ofGlyphs (glyphsOf (← (expansion fuel).marks fuel w))
    if pattern.matchesAll t then return some body else chosen fuel t ((others, body) :: rest)

def perform : (fuel : Nat) → Mode → Command → Step Nat
  | 0, _, _ => throw .exhausted
  | fuel + 1, mode, command => do
    let notice : Step Unit := Step.noticeSignals (fun t => runTrap fuel t)
    let settle (n : Nat) : Step Nat := do
      Step.setStatus n
      notice
      return n
    let check (n : Nat) : Step Nat := do
      Step.setStatus n
      if n ≠ 0 && !mode.tested && (← Step.isSet .exitOnError) then throw (.leave n)
      notice
      return n
    let atLine (line : Nat) : Step Unit := Step.alter fun s => { s with line := line }
    let leadsOf (redirections : List Redirection) : Step (List Lead) :=
      redirections.mapM (Lead.ofRedirection (expansion fuel) fuel)
    notice
    if ← Step.isSet .noRuns then return 0
    match command with
    | .nothing => return (← Step.session).status
    | .simple line assignments words redirections =>
      check (← simple fuel mode line assignments words redirections)
    | .pipeline commands => check (← pipeline fuel mode none commands)
    | .negation body =>
      let n ← perform fuel .test body
      settle (if n = 0 then 1 else 0)
    | .both first second =>
      let n ← perform fuel .test first
      if n ≠ 0 then return n else perform fuel mode second
    | .either first second =>
      let n ← perform fuel .test first
      if n = 0 then return n else perform fuel mode second
    | .sequence first second =>
      let _ ← perform fuel mode.first first
      perform fuel mode second
    | .background line body redirections =>
      atLine line
      let leads ← leadsOf redirections
      let number := (← Step.world).sessions + 1
      let void ← Step.openChannel .void
      let e ← Step.apart (fun t => runTrap fuel t) (fun number s => s.copy number) do
        Lead.applyAll (Lead.close 0 :: leads)
        Lead.point 0 void
        Step.setStatus (← perform fuel ⟨false, true⟩ body)
      Step.alter fun s => { s with background := (number, e) :: s.background }
      check 0
    | .subshell line body redirections =>
      atLine line
      let leads ← leadsOf redirections
      let e ← Step.apart (fun t => runTrap fuel t) (fun number s => s.copy number) do
        Lead.applyAll leads
        Step.setStatus (← perform fuel ⟨mode.tested, true⟩ body)
      if mode.final && (← Step.session).traps.isEmpty then throw (.gone e)
      else check (← Builtin.statusOf e)
    | .redirected line body redirections =>
      atLine line
      let leads ← leadsOf redirections
      let before := (← Step.session).streams
      let refusal ← Lead.applySafely leads
      let n ← Step.andThen
        (if refusal ≠ 0 then return refusal else perform fuel mode.first body)
        (Lead.undo leads before)
      settle n
    | .conditional test yes no =>
      let n ← perform fuel .test test
      if n = 0 then perform fuel mode yes
      else
        match no with
        | some body => perform fuel mode body
        | none => settle 0
    | .loop wanted test body =>
      settle (← Step.inLoop (loopRounds fuel mode.first wanted test body 0))
    | .each line name words body =>
      atLine line
      let texts ← (expansion fuel).otherFields fuel false words
      settle (← Step.inLoop (eachRound fuel mode.first name body 0 texts))
    | .choice line subject clauses =>
      atLine line
      let t ← (expansion fuel).whole fuel subject
      match ← chosen fuel t clauses with
      | none => settle 0
      | some .nothing => settle 0
      | some body => settle (← perform fuel mode body)
    | .definition name body =>
      Step.alter fun s => { s with functions := replaced name body s.functions }
      settle 0

end

/-! ## Whole scripts -/

def depthLimit : Nat := 100000

def givenVariables (place : Place) : List (Octets × Variable) :=
  let given (name value : Octets) : Octets × Variable := (name, ⟨some value, true, false⟩)
  [given "PATH" "/usr/local/sbin:/usr/local/bin:/usr/sbin:/usr/bin:/sbin:/bin",
    given "HOME" "/root", given "PWD" (Builtin.placeText place)]

/-- Runs the shell under a name: what it wrote and how it ended, and the disk as it is left. -/
def runShell (d : Disk) (name : Octets) (args : List Octets) (input : Octets) : Finished × Disk :=
  let world : World :=
    ⟨d, [(0, .source input), (1, .collector), (2, .collector)], 3, [], [], [], firstSession⟩
  let session := Session.fresh firstSession name (givenVariables d.home) d.home
    [(0, 0), (1, 1), (2, 2)]
  let step := Step.toEnd (fun t => runTrap depthLimit t) (startShell depthLimit args)
  let (status, w) : ExitStatus × World := match step.run ⟨world, session⟩ with
    | .ok e r => (e, r.world)
    | .error _ r => (.code 2, r.world)
  let output? : Nat × Octets → Option (Output × Octets)
    | (1, t) => some (.results, t)
    | (2, t) => some (.remarks, t)
    | _ => none
  let unread : Octets := match find? 0 w.channels with
    | some (.source rest) => rest
    | _ => []
  (⟨w.written.reverse.filterMap output?, unread, status⟩, w.disk)

end Script
end ApiTypes
