import ApiTypes.CommandLine.Help
import ApiTypes.Conversion
import ApiTypes.Snapshot
/-!
# Running a command

A run is a function from a disk to an outcome.  Nothing is written before everything has been
generated; warnings are logged once the artifact of the first kind is there, and in strict mode they
end the run right then.
-/
namespace ApiTypes
namespace CommandLine

/-- Runs a program with arguments on a document.  Gives the disk as it is left, and what the program
has made of the document. -/
abbrev Launcher := Disk → Text → List Text → Json → Disk × Except ConversionFault Text

/-- A line of the log. -/
inductive Event where
  | fetchedIndex (sections errors : Nat)
  | remark (d : Diagnostic)
  | converted (bytes : Nat)
  | noConverter
  | wrote (path : Text) (bytes : Nat)
deriving DecidableEq

def Event.diagnostic? : Event → Option Diagnostic
  | .remark d => some d
  | _ => none

structure Outcome where
  exitCode : Nat
  output : Text
  events : List Event
  complaint : Text
  disk : Disk

def Outcome.log (o : Outcome) : List Diagnostic := o.events.filterMap Event.diagnostic?

structure Stage (α : Type) where
  disk : Disk
  events : List Event
  result : Except Failure α

namespace Stage

variable {α β : Type}

def andThen (x : Stage α) (next : Disk → α → Stage β) : Stage β :=
  match x.result with
  | .error f => ⟨x.disk, x.events, .error f⟩
  | .ok a =>
    let y := next x.disk a
    ⟨y.disk, x.events ++ y.events, y.result⟩

def behind (events : List Event) (x : Stage α) : Stage α := { x with events := events ++ x.events }

end Stage

def openSource (d : Disk) (s : SourceOptions) : Except Failure Source :=
  match s.fromDir with
  | some dir => .ok (Snapshot.source d dir)
  | none => .error (.remoteDisabled s.baseUrl)

/-- The index of a source is logged once it is there, whether or not the sections follow. -/
def indexEvents (d : Disk) (s : SourceOptions) : List Event :=
  match openSource d s >>= Artifact.index with
  | .error _ => []
  | .ok (names, errors) => [.fetchedIndex names.length errors.length]

/-- The artifact of the first kind, or what ends the run instead, with the lines logged before.  In
strict mode the diagnostics are logged as errors. -/
def checkedArtifact (d : Disk) (s : SourceOptions) (strict : Bool) :
    List Event × Except Failure Text :=
  match openSource d s >>= Artifact.generate with
  | .error f => (indexEvents d s, .error f)
  | .ok r =>
    let warnings := Diagnostic.warningCount r.diagnostics
    if strict then
      (indexEvents d s ++ r.diagnostics.map (fun w => .remark w.escalate),
        if 0 < warnings then .error (.strictWarnings warnings) else .ok r.value)
    else (indexEvents d s ++ r.diagnostics.map .remark, .ok r.value)

def writeLogged (write : Disk.Writer) (d : Disk) (path text : Text) : Stage Unit :=
  match write d path text with
  | (d, .error f) => ⟨d, [], .error f⟩
  | (d, .ok ()) => ⟨d, [.wrote path (Text.byteLength text)], .ok ()⟩

/-- The document of the second kind and its types, and the disk as the converter leaves it. -/
def convertDocument (launch : Launcher) (d : Disk) (openapi : Text) (c : ConverterOptions) :
    Stage (Json × Text) :=
  match d.loadPlace openapi with
  | .error f => ⟨d, [], .error f⟩
  | .ok document =>
    let (d, converted) := launch d c.program c.args document
    let types := OpenApi.generate (fun _ => converted) openapi document
    ⟨d, (converted.toOption.map (fun t => Event.converted (Text.byteLength t))).toList,
      types.map (fun t => (document, t))⟩

def saveConverted (write : Disk.Writer) (d : Disk) (save : Option Text) (document : Json) :
    Stage Unit :=
  match save with
  | some path => writeLogged write d path document.renderIndented
  | none => ⟨d, [], .ok ()⟩

def writeCombined (write : Disk.Writer) (launch : Launcher) (d : Disk) (first openapi : Text)
    (converter : Option ConverterOptions) (output : Text) : Stage Unit :=
  match converter with
  | none => (writeLogged write d output (OpenApi.combine first none)).behind [.noConverter]
  | some c =>
    (convertDocument launch d openapi c).andThen fun d (document, second) =>
      (saveConverted write d c.save document).andThen fun d () =>
        writeLogged write d output (OpenApi.combine first (some second))

def deliver (write : Disk.Writer) (launch : Launcher) (d : Disk) (first : Text) :
    Command → Text × Stage Unit
  | .v1 _ none _ => (first ++ ['\n'], ⟨d, [], .ok ()⟩)
  | .v1 _ (some path) _ => ([], writeLogged write d path first)
  | .generate _ openapi converter output _ =>
    ([], writeCombined write launch d first openapi converter output)

def Outcome.ofFailure (d : Disk) (events : List Event) (f : Failure) : Outcome :=
  ⟨f.exitCode, [], events, "Error: " ++ f.message ++ "\n", d⟩

def Outcome.ofStage (output : Text) (x : Stage Unit) : Outcome :=
  match x.result with
  | .error f => .ofFailure x.disk x.events f
  | .ok () => ⟨0, output, x.events, [], x.disk⟩

def runCommand (write : Disk.Writer) (launch : Launcher) (d : Disk) (c : Command) : Outcome :=
  match checkedArtifact d c.source c.strict with
  | (events, .error f) => .ofFailure d events f
  | (events, .ok first) =>
    let (output, x) := deliver write launch d first c
    .ofStage output (x.behind events)

def usageExitCode : Nat := 2

/-- Runs a whole command line, with a way to write files. -/
def runBy (write : Disk.Writer) (launch : Launcher) (d : Disk) (args : List Text) : Outcome :=
  match parse args with
  | .error fault =>
    ⟨usageExitCode, [], [], fault.message ++ "\n\nFor more information, try '--help'.\n", d⟩
  | .ok .nothing => ⟨usageExitCode, [], [], Page.overview.text, d⟩
  | .ok (.show page) => ⟨0, page.text, [], [], d⟩
  | .ok .version => ⟨0, versionText, [], [], d⟩
  | .ok (.run c) => runCommand write launch d c

def run (launch : Launcher) (d : Disk) (args : List Text) : Outcome :=
  runBy Disk.writeText launch d args

/-! ## The log -/

/-- A control character that could take over a terminal is shown by its number. -/
def logChar (c : Char) : Text :=
  let n := c.toNat
  let hex := Nat.toDigits 16 n
  if n = 7 ∨ n = 8 ∨ n = 12 then "\\x0" ++ hex
  else if n = 27 ∨ n = 127 then "\\x" ++ hex
  else if 128 ≤ n ∧ n ≤ 159 then "\\u\x7b" ++ hex ++ ['\x7d']
  else [c]

def levelText : Severity → Text
  | .error => "ERROR"
  | .warning => "WARN"

def logText (d : Diagnostic) : Text :=
  levelText d.severity ++ " " ++ d.message.flatMap logChar ++ " code=" ++ d.code

def Event.text : Event → Text
  | .fetchedIndex sections errors =>
    "INFO fetched V1 index sections=" ++ Text.ofNat sections ++ " errors=" ++ Text.ofNat errors
  | .remark d => logText d
  | .converted bytes => "INFO converted OpenAPI document bytes=" ++ Text.ofNat bytes
  | .noConverter => "INFO no converter given, skipping V2 types"
  | .wrote path bytes => "INFO wrote artifact path=" ++ path ++ " bytes=" ++ Text.ofNat bytes

end CommandLine
end ApiTypes
