import ApiTypes.CommandLine.Usage
/-!
# Reading a command line

Words are read from the left.  A value that stands in a word of its own is taken in at once but
looked at only when the next known option or the end comes, so an unknown word behind it is the
fault even if the value is bad too.  A value joined to its option by an equals sign is looked at
where it stands.
-/
namespace ApiTypes
namespace CommandLine

/-- An option as it was given; switches have an empty value. -/
structure Given where
  option : Opt
  value : Text
deriving DecidableEq

/-- What has been read: the options looked at, in order, and one that is still to be looked at. -/
structure Progress where
  given : List Given
  pending : Option (Opt × Option Text)
  /-- Whether two hyphens have come, behind which no word is an option. -/
  optionsEnded : Bool

def Progress.initial : Progress := ⟨[], none, false⟩

def checkValue (o : Opt) (value : Text) : Except UsageFault Unit :=
  if o.isPath && value.isEmpty then .error (.valueRequired o)
  else if o = .timeout then
    match seconds value with
    | .ok _ => .ok ()
    | .error fault => .error (.invalidNumber value o fault)
  else .ok ()

def Progress.accept (p : Progress) (o : Opt) (value : Text) : Except UsageFault Progress := do
  if !o.repeats && p.given.any (fun g => g.option = o) then throw (.repeated o)
  checkValue o value
  return { p with given := p.given ++ [⟨o, value⟩], pending := none }

def Progress.resolve (p : Progress) : Except UsageFault Progress :=
  match p.pending with
  | none => .ok p
  | some (o, none) => .error (.valueRequired o)
  | some (o, some value) => p.accept o value

def cutAtEquals (t : Text) : Text × Option Text :=
  match t.dropWhile (fun c => c ≠ '=') with
  | [] => (t, none)
  | _ :: value => (t.takeWhile (fun c => c ≠ '='), some value)

inductive Reading where
  | options (given : List Given)
  | help

/-- What a word is in front of which hyphens may stand. -/
inductive Shape where
  | hyphens
  | long (name : Text) (value : Option Text)
  | short (letter : Char)
  | plain

def shapeOf (arg : Text) : Shape :=
  match arg with
  | ['-', '-'] => .hyphens
  | '-' :: '-' :: t => let (name, value) := cutAtEquals t; .long name value
  | '-' :: c :: _ => .short c
  | _ => .plain

def readWords (s : Subcommand) : Progress → List Text → Except UsageFault Reading
  | p, [] => do return .options (← p.resolve).given
  | p, arg :: rest =>
    if p.optionsEnded then .error (.unexpectedArgument arg)
    else
      let taker? : Option Opt :=
        match p.pending with
        | some (o, none) => some o
        | _ => none
      if (taker?.map Opt.takesAnything).getD false then
        readWords s { p with pending := taker?.map (fun o => (o, some arg)) } rest
      else match shapeOf arg with
        | .hyphens => readWords s { p with optionsEnded := true } rest
        | .long name value =>
          match s.options.find? (fun o => o.name = name) with
          | none => .error (.unexpectedArgument ("--" ++ name))
          | some o =>
            match o.takesValue, value with
            | false, some v => .error (.unexpectedValue v o.text)
            | false, none => do
              let p ← p.resolve
              if o = .help then return .help
              readWords s (← p.accept o []) rest
            | true, some v => do
              let p ← p.resolve
              readWords s (← p.accept o v) rest
            | true, none => do
              let p ← p.resolve
              readWords s { p with pending := some (o, none) } rest
        | .short c =>
          if c = 'h' then do
            let _ ← p.resolve
            return .help
          else .error (.unexpectedArgument ['-', c])
        | .plain =>
          match taker? with
          | some o => readWords s { p with pending := some (o, some arg) } rest
          | none => .error (.unexpectedArgument arg)

def valueOf? (given : List Given) (o : Opt) : Option Text :=
  (given.find? (fun g => g.option = o)).map Given.value

def isGiven (given : List Given) (o : Opt) : Bool := given.any (fun g => g.option = o)

/-- Refuses a URL and a directory together, and the options of a converter without one. -/
def checkTogether (given : List Given) : Except UsageFault Unit :=
  match (given.map Given.option).filter (fun o => o = .fromDir || o = .baseUrl) with
  | first :: second :: _ => .error (.conflict first second)
  | _ =>
    if (isGiven given .converterArg || isGiven given .saveOpenapi) && !isGiven given .converter then
      .error .missingRequired
    else .ok ()

def sourceOf (given : List Given) : SourceOptions :=
  let timeout? := (valueOf? given .timeout).bind (fun t => (seconds t).toOption)
  ⟨(valueOf? given .baseUrl).getD defaultBaseUrl, valueOf? given .fromDir,
    timeout?.getD defaultTimeout⟩

def converterOf (given : List Given) : Option ConverterOptions :=
  (valueOf? given .converter).map fun program =>
    ⟨program, (given.filter (fun g => g.option = .converterArg)).map Given.value,
      valueOf? given .saveOpenapi⟩

def commandOf (s : Subcommand) (given : List Given) : Command :=
  let strict := isGiven given .strict
  match s with
  | .v1 => .v1 (sourceOf given) (valueOf? given .output) strict
  | .generate =>
    .generate (sourceOf given) ((valueOf? given .openapi).getD defaultOpenapi) (converterOf given)
      ((valueOf? given .output).getD defaultOutput) strict

inductive Page where
  | overview
  | command (s : Subcommand)
  | help
deriving DecidableEq

inductive Invocation where
  | run (c : Command)
  | show (page : Page)
  | version
  /-- No command is named. -/
  | nothing
deriving DecidableEq

def parseCommand (s : Subcommand) (args : List Text) : Except UsageFault Invocation := do
  match ← readWords s .initial args with
  | .help => return .show (.command s)
  | .options given =>
    checkTogether given
    return .run (commandOf s given)

def helpWord : Text := "help"

/-- The command line behind the word for help; no command has commands of its own. -/
def parseHelp : List Text → Except UsageFault Invocation
  | [] => .ok (.show .overview)
  | name :: rest =>
    let page? : Option Page :=
      if name = helpWord then some .help else (Subcommand.named? name).map Page.command
    match page?, rest with
    | some page, [] => .ok (.show page)
    | some _, other :: _ => .error (.unrecognizedSubcommand other)
    | none, _ => .error (.unrecognizedSubcommand name)

def parse : List Text → Except UsageFault Invocation
  | [] => .ok .nothing
  | arg :: rest =>
    if arg = helpWord then parseHelp rest
    else match Subcommand.named? arg with
      | some s => parseCommand s rest
      | none =>
        match shapeOf arg with
        | .hyphens =>
          match rest with
          | [] => .ok .nothing
          | next :: _ =>
            if next = helpWord ∨ (Subcommand.named? next).isSome then
              .error (.unexpectedArgument next)
            else .error (.unrecognizedSubcommand next)
        | .long name value =>
          if name = helpWord then
            match value with
            | none => .ok (.show .overview)
            | some v => .error (.unexpectedValue v "--help")
          else if name = "version".toList then
            match value with
            | none => .ok .version
            | some v => .error (.unexpectedValue v "--version")
          else .error (.unexpectedArgument ("--" ++ name))
        | .short c =>
          if c = 'h' then .ok (.show .overview)
          else if c = 'V' then .ok .version
          else .error (.unexpectedArgument ['-', c])
        | .plain => .error (.unrecognizedSubcommand arg)

end CommandLine
end ApiTypes
