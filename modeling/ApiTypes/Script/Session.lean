import ApiTypes.Program
import ApiTypes.Script.Source
/-!
# A session of the shell

A shell that runs has variables, functions, arguments, a place and open streams.  A part of a script
that stands apart runs in a session of its own, a copy of the one around it.  All sessions share one
world: the disk, what the streams lead to, and the signals under way.
-/
namespace ApiTypes
namespace Script

/-- What a stream leads to. -/
inductive Channel where
  | source (rest : Octets)
  /-- What is written is kept. -/
  | collector
  /-- A file on the disk, read and written at an offset or, where `atEnd` holds, at its end. -/
  | file (place : Place) (offset : Nat) (atEnd : Bool)
  /-- Nothing is read, and what is written is gone. -/
  | void

/-- What all sessions share. -/
structure World where
  disk : Disk
  channels : List (Nat × Channel)
  opened : Nat
  written : List (Nat × Octets)
  documents : List (Nat × Word)
  /-- The signals that sessions have not yet noticed. -/
  signals : List (Nat × Signal)
  sessions : Nat

def firstSession : Nat := 4000

/-- A variable; one without a value is only marked. -/
structure Variable where
  value : Option Octets
  exported : Bool
  readOnly : Bool

inductive Setting where
  | exitOnError
  | noPatterns
  | noRuns
  | traced
  | noUnset
  | noOverwrite
  | exportAll
  /-- Accepted and of no effect here. -/
  | other (letter : Char) (name : Octets)
deriving DecidableEq

structure Session where
  number : Nat
  /-- The number of the shell that it is a part of. -/
  shell : Nat
  name : Octets
  arguments : List Octets
  bindings : List (Octets × Variable)
  functions : List (Octets × Command)
  place : Place
  streams : List (Nat × Nat)
  settings : List Setting
  status : Nat
  /-- How the last command that gave its results to a word ended. -/
  resultStatus : Nat
  line : Nat
  /-- The built-in command at hand, which remarks are made in the name of. -/
  caller : Option Octets
  loops : Nat
  /-- The variables that the functions around the command at hand have covered, the innermost
  function first. -/
  covered : List (List (Octets × Option Variable))
  /-- What is done when signals arrive; number zero stands for the end. -/
  traps : List (Nat × Octets)
  /-- Commands run in the background, by their numbers, and how they ended. -/
  background : List (Nat × ExitStatus)

structure Running where
  world : World
  session : Session

/-- Why a command does not go on to what follows it. -/
inductive Ending where
  | leave (status : Nat)
  /-- Something is wrong, which ends the shell or the command that notices it. -/
  | fault (status : Nat)
  | leaveLoops (count : Nat)
  | nextRound (count : Nat)
  | comeBack (status : Nat)
  | gone (e : ExitStatus)
  /-- It went too deep. -/
  | exhausted

abbrev Step := EStateM Ending Running

def find? {α β : Type} [DecidableEq α] (key : α) (entries : List (α × β)) : Option β :=
  (entries.find? (fun e => e.1 = key)).map (·.2)

def replaced {α β : Type} [DecidableEq α] (key : α) (value : β) (entries : List (α × β)) :
    List (α × β) :=
  (key, value) :: entries.filter (fun e => e.1 ≠ key)

def without {α β : Type} [DecidableEq α] (key : α) (entries : List (α × β)) : List (α × β) :=
  entries.filter (fun e => e.1 ≠ key)

namespace Step

def session : Step Session := do return (← get).session

def world : Step World := do return (← get).world

def alter (f : Session → Session) : Step Unit :=
  modify fun r => { r with session := f r.session }

def alterWorld (f : World → World) : Step Unit :=
  modify fun r => { r with world := f r.world }

def disk : Step Disk := do
  let r ← get
  return { r.world.disk with home := r.session.place }

/-! ## Streams -/

def openChannel (c : Channel) : Step Nat := do
  let n := (← world).opened
  alterWorld fun w => { w with channels := (n, c) :: w.channels, opened := n + 1 }
  return n

def channel? (stream : Nat) : Step (Option (Nat × Channel)) := do
  let r ← get
  return (find? stream r.session.streams).bind
    (fun n => (find? n r.world.channels).map (fun c => (n, c)))

def setChannel (n : Nat) (c : Channel) : Step Unit :=
  alterWorld fun w => { w with channels := replaced n c w.channels }

def pending (stream : Nat) : Step Octets := do
  match ← channel? stream with
  | some (_, .source rest) => return rest
  | some (_, .file place offset _) =>
    match (← world).disk.entry? place with
    | some (.file contents) => return Octets.ofBytes (contents.drop offset)
    | _ => return []
  | _ => return []

/-- Leaves only some of what could be read from a stream to be read, the last bytes of it. -/
def leaveUnread (stream : Nat) (rest : Octets) : Step Unit := do
  match ← channel? stream with
  | some (n, .source _) => setChannel n (.source rest)
  | some (n, .file place offset atEnd) =>
    let read := (← pending stream).length - rest.length
    setChannel n (.file place (offset + read) atEnd)
  | _ => return

def overwritten (contents : Bytes) (offset : Nat) (bytes : Bytes) : Bytes :=
  contents.take offset ++ List.replicate (offset - contents.length) 0 ++ bytes
    ++ contents.drop (offset + bytes.length)

/-- Writes to a stream.  Says whether there is one. -/
def write (stream : Nat) (text : Octets) : Step Bool := do
  match ← channel? stream with
  | some (n, .collector) =>
    if !text.isEmpty then alterWorld fun w => { w with written := (n, text) :: w.written }
    return true
  | some (n, .file place offset atEnd) =>
    match (← world).disk.entry? place with
    | some (.file contents) =>
      let offset := if atEnd then contents.length else offset
      let changed := overwritten contents offset (Octets.toBytes text)
      alterWorld fun w => { w with disk := w.disk.put place (.file changed) }
      setChannel n (.file place (offset + text.length) atEnd)
    | _ => return true
    return true
  | some (_, .void) => return true
  | some (_, .source _) => return false
  | none => return false

/-- What has been written to a collector, which is not kept any longer. -/
def collect (n : Nat) : Step Octets := do
  let (mine, others) := (← world).written.partition (fun e => e.1 = n)
  alterWorld fun w => { w with written := others }
  return (mine.reverse.map (·.2)).flatten

/-! ## Remarks -/

/-- Words on the stream for remarks, with the script and the line in front. -/
def remark (words : Octets) : Step Unit := do
  let s ← session
  let caller := match s.caller with
    | some name => name ++ ": "
    | none => []
  let _ ← write 2 (s.name ++ ": " ++ Text.ofNat s.line ++ ": " ++ caller ++ words ++ "\n")

/-- The shell, or the command at hand, stops with a remark. -/
def fail {α : Type} (words : Octets) : Step α := do
  remark words
  throw (.fault 2)

/-! ## Variables -/

def valueOf? (name : Octets) : Step (Option Octets) := do
  return (find? name (← session).bindings).bind (·.value)

def isSet (setting : Setting) : Step Bool := do
  return (← session).settings.contains setting

def assign (name value : Octets) (exported : Bool) : Step Unit := do
  let exported := exported || (← isSet .exportAll)
  match find? name (← session).bindings with
  | some v =>
    if v.readOnly then fail (name ++ ": is read only")
    alter fun s =>
      { s with bindings := replaced name ⟨some value, v.exported || exported, false⟩ s.bindings }
  | none =>
    alter fun s =>
      { s with bindings := replaced name ⟨some value, exported, false⟩ s.bindings }

def restore (name : Octets) (v : Option Variable) : Step Unit :=
  alter fun s =>
    { s with bindings :=
        match v with
        | some v => replaced name v s.bindings
        | none => without name s.bindings }

def separators : Step Octets := do return (← valueOf? "IFS").getD [' ', '\t', '\n']

def setStatus (n : Nat) : Step Unit := alter fun s => { s with status := n }

/-! ## Signals -/

/-- The signals that end nothing if nothing is said about them. -/
def harmlessSignals : List Nat := [0, 17, 18, 23, 28]

def send (number : Nat) (signal : Signal) : Step Unit :=
  alterWorld fun w => { w with signals := w.signals ++ [(number, signal)] }

end Step
end Script
end ApiTypes
