import ApiTypes.Script.Expand
import ApiTypes.Script.Format
import ApiTypes.Script.Grammar
import ApiTypes.Script.Judgement
/-!
# Built-in commands

The commands of the shell that need no other command to be run.  Each is a function from its
arguments to the way it ends.  A special one that fails ends the shell, and what is assigned in front
of it lasts.
-/
namespace ApiTypes
namespace Script

structure Builtin where
  /-- Whether it belongs to the language rather than beside it. -/
  isSpecial : Bool
  /-- Whether arguments that look like assignments stay whole. -/
  assigns : Bool
  run : List Octets → Step Nat

namespace Builtin

/-! ## Arguments and results -/

def put (t : Octets) : Step Nat := do
  if t.isEmpty then return 0
  else if ← Step.write 1 t then return 0
  else
    let caller := ((← Step.session).caller).getD []
    Step.remark (caller ++ ": I/O error")
    return 1

/-- The letters at the front of the arguments; letters that are none are refused. -/
def takeLetters (known : List Char) : List Octets → Step (List Char × List Octets)
  | ['-', '-'] :: rest => return ([], rest)
  | ('-' :: c :: more) :: rest => do
    match (c :: more).find? (fun l => !known.contains l) with
    | some l => Step.fail ("Illegal option -" ++ [l])
    | none =>
      let (letters, rest) ← takeLetters known rest
      return (c :: more ++ letters, rest)
  | args => return ([], args)

def countOf (t : Octets) : Step Nat := do
  match Judge.wholeNumber? t with
  | some n =>
    if 0 ≤ n && n < 0x80000000 then return n.toNat else Step.fail ("Illegal number: " ++ t)
  | none => Step.fail ("Illegal number: " ++ t)

def quotedText (t : Octets) : Octets :=
  let piece (p : Octets) : Octets := if p.isEmpty then [] else '\'' :: p ++ ['\'']
  let rec go (plain : Octets) : Octets → Octets
    | [] => piece plain.reverse
    | '\'' :: rest => piece plain.reverse ++ "\"'\"" ++ go [] rest
    | c :: rest => go (c :: plain) rest
  if t.isEmpty then "''" else go [] t

def checkName (name : Octets) : Step Unit := do
  if !isName name then Step.fail (name ++ ": bad variable name")

def cutAssignment (t : Octets) : Octets × Option Octets :=
  let name := t.takeWhile (· ≠ '=')
  (name, (t.drop name.length).tail?)

/-! ## Texts -/

def echo (args : List Octets) : Step Nat := put (echoed args)

def print (args : List Octets) : Step Nat := do
  match (← takeLetters [] args).2 with
  | [] => Step.fail "usage: printf format [arg ...]"
  | format :: args =>
    let (written, remarks, fault) := formatted format args
    for words in remarks do Step.remark words
    match fault with
    | some words =>
      Step.remark words
      let _ ← put written
      throw (.fault 2)
    | none =>
      let status ← put written
      return if remarks.isEmpty then status else 1

def test (args : List Octets) : Step Nat := do
  match judge (← Step.disk) args with
  | .ok holds => return if holds then 0 else 1
  | .error words => Step.fail words

def bracket (args : List Octets) : Step Nat := do
  match args.getLast? with
  | some (']' :: _) => test args.dropLast
  | _ => Step.fail "missing ]"

/-! ## Variables -/

def listVariables (front : Octets) (p : Variable → Bool) : Step Nat := do
  let found := (← Step.session).bindings.filter (fun v => p v.2)
  let sorted := found.mergeSort (fun a b => isBefore a.1 b.1)
  put (sorted.flatMap fun v =>
    front ++ v.1 ++ (match v.2.value with
      | some t => '=' :: quotedText t
      | none => []) ++ ['\n'])

def markVariables (front : Octets) (p : Variable → Bool) (mark : Variable → Variable)
    (args : List Octets) : Step Nat := do
  let (letters, args) ← takeLetters ['p'] args
  if !letters.isEmpty || args.isEmpty then listVariables front p
  else
    for arg in args do
      let (name, value) := cutAssignment arg
      checkName name
      match value with
      | some t => Step.assign name t false
      | none => pure ()
      let v := (find? name (← Step.session).bindings).getD ⟨none, false, false⟩
      Step.restore name (some (mark v))
    return 0

def unset (args : List Octets) : Step Nat := do
  let (letters, args) ← takeLetters ['v', 'f'] args
  for name in args do
    if letters.getLast? = some 'f' then
      Step.alter fun s => { s with functions := without name s.functions }
    else
      let name := (cutAssignment name).1
      checkName name
      match find? name (← Step.session).bindings with
      | some v =>
        if v.readOnly then Step.fail (name ++ ": is read only")
        Step.restore name none
      | none => pure ()
  return 0

/-- Variables that are to be as they were when the function is left. -/
def coverVariables (args : List Octets) : Step Nat := do
  for arg in args do
    let (name, value) := cutAssignment arg
    let s ← Step.session
    match s.covered with
    | [] => Step.fail "not in a function"
    | frame :: outer =>
      if name ≠ ['-'] then
        checkName name
        let before := find? name s.bindings
        let frame := if frame.any (fun c => c.1 = name) then frame else (name, before) :: frame
        Step.alter fun s => { s with covered := frame :: outer }
        match value, before with
        | some t, _ => Step.assign name t false
        | none, none => Step.restore name (some ⟨none, false, false⟩)
        | none, some _ => pure ()
  if (← Step.session).covered.isEmpty then Step.fail "not in a function"
  return 0

/-- The next line of the input, its backslashes resolved unless `raw` holds, and whether it was
complete; `escaped` tells of a backslash right in front. -/
def takeLine (raw : Bool) : (escaped : Bool) → Octets → List Mark × Octets × Bool
  | _, [] => ([], [], false)
  | escaped, c :: rest =>
    let marked (quoted : Bool) (r : List Mark × Octets × Bool) : List Mark × Octets × Bool :=
      (.glyph ⟨c, quoted⟩ :: r.1, r.2)
    if c = '\x00' then takeLine raw escaped rest
    else if escaped then
      if c = '\n' then takeLine raw false rest else marked true (takeLine raw false rest)
    else if c = '\\' && !raw then takeLine raw true rest
    else if c = '\n' then ([], rest, true)
    else marked false (takeLine raw false rest)

/-- Marks as stretches, of which only unquoted ones are cut. -/
def stretchesOfLine (marks : List Mark) : List Stretch :=
  marks.splitBy (fun a b => isQuoted a = isQuoted b) |>.map fun part =>
    ⟨if part.head?.any isQuoted then .never else .atSeparators, part⟩
where
  isQuoted : Mark → Bool
    | .glyph g => g.quoted
    | _ => false

def read (args : List Octets) : Step Nat := do
  let rec letters (raw : Bool) : List Octets → Step (Bool × List Octets)
    | ['-', 'p'] :: _ :: rest => letters raw rest
    | ['-', 'r', 'p'] :: _ :: rest => letters true rest
    | ['-', 'r'] :: rest => letters true rest
    | ['-', '-'] :: rest => return (raw, rest)
    | ['-', 'p'] :: [] => Step.fail "No arg for -p option"
    | ('-' :: 'p' :: _ :: _) :: rest => letters raw rest
    | ('-' :: c :: _) :: _ => Step.fail ("Illegal option -" ++ [c])
    | rest => return (raw, rest)
  let (raw, names) ← letters false args
  if names.isEmpty then Step.fail "arg count"
  let (marks, rest, complete) := takeLine raw false (← Step.pending 0)
  Step.leaveUnread 0 rest
  let found := fieldsOf (← Step.separators) (some names.length) (stretchesOfLine marks)
  for (name, index) in names.zipIdx do
    checkName name
    Step.assign name (plainText (found[index]?.getD [])) false
  return if complete then 0 else 1

def shift (args : List Octets) : Step Nat := do
  let n ← match args with
    | t :: _ => countOf t
    | [] => pure 1
  if (← Step.session).arguments.length < n then Step.fail "can't shift that many"
  Step.alter fun s => { s with arguments := s.arguments.drop n }
  return 0

def set (args : List Octets) : Step Nat := do
  if args.isEmpty then listVariables [] (·.value.isSome)
  else
    match SettingsRead.ofArguments false (← Step.session).settings args with
    | .error words => Step.fail words
    | .ok r =>
      Step.alter fun s =>
        { s with
          settings := r.settings
          arguments := if r.divided || !r.rest.isEmpty then r.rest else s.arguments }
      put r.shown

/-! ## Places -/

def placeText (place : Place) : Octets := Octets.ofText ('/' :: Text.join ['/'] place)

def changeDirectory (args : List Octets) : Step Nat := do
  let (_, args) ← takeLetters ['L', 'P'] args
  let back : Bool := args.head? = some ['-']
  let wanted ← match args with
    | [] => Step.valueOf? "HOME"
    | t :: _ => if back then Step.valueOf? "OLDPWD" else pure (some t)
  let wanted := wanted.getD []
  let d ← Step.disk
  let path := Path.ofText (if wanted.isEmpty then Path.here else wanted.toText)
  match d.entryAt path, d.walk (d.start path) path.names with
  | .ok .directory, .ok place =>
    let old := (← Step.session).place
    Step.alter fun s => { s with place := place }
    Step.assign "OLDPWD" (placeText old) true
    Step.assign "PWD" (placeText place) true
    if back then put (placeText place ++ ['\n']) else return 0
  | _, _ => Step.fail ("can't cd to " ++ wanted)

def showPlace (args : List Octets) : Step Nat := do
  let _ ← takeLetters ['L', 'P'] args
  put (placeText (← Step.session).place ++ ['\n'])

def showMask (args : List Octets) : Step Nat := do
  let (letters, args) ← takeLetters ['S'] args
  if args.isEmpty then put (if letters.isEmpty then "0022\n" else "u=rwx,g=rx,o=rx\n")
  else return 0

/-! ## Leaving -/

def exit (args : List Octets) : Step Nat := do
  let status ← match args with
    | t :: _ => countOf t
    | [] => pure (← Step.session).status
  throw (.leave status)

def comeBack (args : List Octets) : Step Nat := do
  let status ← match args with
    | t :: _ => countOf t
    | [] => pure (← Step.session).status
  throw (.comeBack status)

def loopCount (args : List Octets) : Step Nat := do
  let n ← match args with
    | t :: _ => do
      let n ← countOf t
      if n = 0 then Step.fail ("Illegal number: " ++ t) else pure n
    | [] => pure 1
  return min n (← Step.session).loops

def leaveLoops (args : List Octets) : Step Nat := do
  let n ← loopCount args
  if n = 0 then return 0 else throw (.leaveLoops n)

def nextRound (args : List Octets) : Step Nat := do
  let n ← loopCount args
  if n = 0 then return 0 else throw (.nextRound n)

/-! ## Signals -/

/-- The name of a signal in the shell; number zero is the end of the shell. -/
def signalName (n : Nat) : Octets :=
  if n = 0 then "EXIT"
  else if n = 34 then "RTMIN"
  else if n = 64 then "RTMAX"
  else if 34 < n && n < 50 then "RTMIN+" ++ Text.ofNat (n - 34)
  else if 50 ≤ n && n < 64 then "RTMAX-" ++ Text.ofNat (64 - n)
  else if n = 16 then Text.ofNat n
  else ((Signal.mk n).name?).getD (Text.ofNat n)

def signalNumber? (least : Nat) (t : Octets) : Option Nat :=
  if !t.isEmpty && t.all Char.isDigit then
    let n := digitsValue 10 t
    if n ≤ Signal.greatest then some n else none
  else
    let numbers := (List.range (Signal.greatest + 1)).drop least
    numbers.find? (fun n => signalName n = t.map Char.toUpper)

/-- A signal is sent to a shell; one to the shell itself takes effect at once. -/
def deliver (target : Nat) (n : Nat) : Step Unit := do
  let s ← Step.session
  let isHandled : Bool := (find? n s.traps).isSome && n ≠ Signal.kill.number
  if Step.harmlessSignals.contains n then return
  else if target = s.number && !isHandled then throw (.gone (.signal ⟨n⟩))
  else Step.send target ⟨n⟩

def killUsage : Octets :=
  "Usage: kill [-s sigspec | -signum | -sigspec] [pid | job]... or\nkill -l [exitstatus]"

def killAll (signal : Nat) : List Octets → Step Nat
  | [] => return 0
  | t :: rest => do
    if t.head? = some '%' then Step.fail ("No such job: " ++ t)
    let n ← countOf (if t.head? = some '-' then t.tail else t)
    let isSession : Bool := firstSession ≤ n && n ≤ (← Step.world).sessions
    let known := isSession && t.head? ≠ some '-'
    if known then deliver n signal
    else Step.remark "No such process\n"
    let status ← killAll signal rest
    return if known then status else 1

def listSignals : List Octets → Step Nat
  | [] => put ("0\n".toList ++ ((List.range Signal.greatest).flatMap
      (fun n => signalName (n + 1) ++ ['\n'])))
  | t :: _ => do
    let n ← countOf t
    let n := if 128 < n then n - 128 else n
    if 0 < n && n ≤ Signal.greatest then put (signalName n ++ ['\n'])
    else Step.fail ("invalid signal number or exit status: " ++ t)

def kill (args : List Octets) : Step Nat := do
  let run (signal : Nat) (targets : List Octets) : Step Nat :=
    if targets.isEmpty then Step.fail killUsage else killAll signal targets
  let signalOf (t : Octets) : Step Nat := do
    match signalNumber? 1 t with
    | some n => return n
    | none => Step.fail ("invalid signal number or name: " ++ t)
  match args with
  | [] => Step.fail killUsage
  | ['-', '-'] :: rest => run Signal.term.number rest
  | ('-' :: name) :: rest =>
    match signalNumber? 1 name with
    | some n => run n rest
    | none =>
      match name with
      | [] => run Signal.term.number args
      | ['l'] => listSignals rest
      | ['s'] =>
        match rest with
        | [] => Step.fail "No arg for -s option"
        | t :: rest =>
          let n ← signalOf t
          run n (match rest with
            | ['-', '-'] :: targets => targets
            | _ => rest)
      | 's' :: t =>
        let n ← signalOf t
        run n rest
      | c :: _ => Step.fail ("Illegal option -" ++ [c])
  | _ => run Signal.term.number args

def setTraps (action : Option Octets) : List Octets → Step Nat
  | [] => return 0
  | t :: rest => do
    match signalNumber? 0 t with
    | none =>
      let _ ← Step.write 2 ("trap: " ++ t ++ ": bad trap\n")
      return 1
    | some n =>
      Step.alter fun s =>
        { s with traps :=
            match action with
            | some words => if words = ['-'] then without n s.traps else replaced n words s.traps
            | none => without n s.traps }
      setTraps action rest

def trap (args : List Octets) : Step Nat := do
  match (← takeLetters [] args).2 with
  | [] =>
    let sorted := (← Step.session).traps.mergeSort (fun a b => a.1 ≤ b.1)
    put (sorted.flatMap fun t => "trap -- " ++ quotedText t.2 ++ " " ++ signalName t.1 ++ "\n")
  | [t] => setTraps none [t]
  | action :: rest =>
    if (signalNumber? 0 action).isSome && action.all Char.isDigit then
      setTraps none (action :: rest)
    else setTraps (some action) rest

/-- The words for a signal that ended a command; some go without saying. -/
def signalWords (s : Signal) : Octets :=
  let known : List (Nat × Octets) :=
    [(1, "Hangup"), (3, "Quit"), (4, "Illegal instruction"), (5, "Trace/breakpoint trap"),
      (6, "Aborted"), (7, "Bus error"), (8, "Floating point exception"), (9, "Killed"),
      (10, "User defined signal 1"), (11, "Segmentation fault"), (12, "User defined signal 2"),
      (14, "Alarm clock"), (15, "Terminated"), (16, "Stack fault"),
      (24, "CPU time limit exceeded"), (25, "File size limit exceeded"),
      (26, "Virtual timer expired"), (27, "Profiling timer expired"), (29, "I/O possible"),
      (30, "Power failure"), (31, "Bad system call")]
  if s.number = 2 || s.number = 13 then []
  else (find? s.number known).getD ("Real-time signal " ++ Text.ofNat (s.number - 34))

def statusOf : ExitStatus → Step Nat
  | .code n => return n
  | .signal s => do
    let words := signalWords s
    if !words.isEmpty then
      let _ ← Step.write 2 (words ++ ['\n'])
    return 128 + s.number

/-- Waits for commands in the background, which have all ended. -/
def wait (args : List Octets) : Step Nat := do
  let (_, args) ← takeLetters [] args
  let rec go (last : Nat) : List Octets → Step Nat
    | [] => return last
    | t :: rest => do
      if t.head? = some '%' then Step.fail ("No such job: " ++ t)
      let n ← countOf t
      match find? n (← Step.session).background with
      | some e => do go (← statusOf e) rest
      | none => go 127 rest
  go 0 args

/-! ## The table -/

def quiet (status : Nat) : List Octets → Step Nat := fun _ => return status

/-- The built-in commands that need no other command to be run. -/
def all : List (Octets × Builtin) :=
  [(":", ⟨true, false, quiet 0⟩), ("true", ⟨false, false, quiet 0⟩),
    ("false", ⟨false, false, quiet 1⟩), ("echo", ⟨false, false, echo⟩),
    ("printf", ⟨false, false, print⟩), ("test", ⟨false, false, test⟩),
    ("[", ⟨false, false, bracket⟩), ("read", ⟨false, false, read⟩),
    ("export", ⟨true, true, markVariables "export " (·.exported) ({ · with exported := true })⟩),
    ("readonly",
      ⟨true, true, markVariables "readonly " (·.readOnly) ({ · with readOnly := true })⟩),
    ("unset", ⟨true, false, unset⟩), ("local", ⟨true, true, coverVariables⟩),
    ("shift", ⟨true, false, shift⟩), ("set", ⟨true, false, set⟩),
    ("cd", ⟨false, false, changeDirectory⟩), ("chdir", ⟨false, false, changeDirectory⟩),
    ("pwd", ⟨false, false, showPlace⟩), ("umask", ⟨false, false, showMask⟩),
    ("exit", ⟨true, false, exit⟩), ("return", ⟨true, false, comeBack⟩),
    ("break", ⟨true, false, leaveLoops⟩), ("continue", ⟨true, false, nextRound⟩),
    ("kill", ⟨false, false, kill⟩), ("trap", ⟨true, false, trap⟩),
    ("wait", ⟨false, false, wait⟩), ("jobs", ⟨false, false, quiet 0⟩),
    ("hash", ⟨false, false, quiet 0⟩),
    ("times", ⟨true, false, fun _ =>
      put "0m0.000000s 0m0.000000s\n0m0.000000s 0m0.000000s\n"⟩)]

end Builtin
end Script
end ApiTypes
