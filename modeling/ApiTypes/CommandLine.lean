import ApiTypes.Text
/-!
# The options of the command line

There are two commands.  Both read schemas from a service or from a snapshot of it; the second one
also takes an OpenAPI document through a converter.  An option is known by its long name only, save
the one that asks for help.
-/
namespace ApiTypes
namespace CommandLine

inductive Subcommand where
  | v1
  | generate
deriving DecidableEq

namespace Subcommand

def name : Subcommand → Text
  | .v1 => "v1"
  | .generate => "generate"

def about : Subcommand → Text
  | .v1 => "Generate V1 types only"
  | .generate => "Generate V1 types, then V2 types through an external OpenAPI converter"

def all : List Subcommand := [.v1, .generate]

def named? (t : Text) : Option Subcommand := all.find? (fun s => s.name = t)

end Subcommand

inductive Opt where
  | baseUrl
  | fromDir
  | timeout
  | openapi
  | converter
  | converterArg
  | saveOpenapi
  | output
  | strict
  | help
deriving DecidableEq

namespace Opt

def name : Opt → Text
  | .baseUrl => "base-url"
  | .fromDir => "from-dir"
  | .timeout => "timeout"
  | .openapi => "openapi"
  | .converter => "converter"
  | .converterArg => "converter-arg"
  | .saveOpenapi => "save-openapi"
  | .output => "output"
  | .strict => "strict"
  | .help => "help"

/-- The word for the value of an option; an option without one is a switch. -/
def valueName? : Opt → Option Text
  | .baseUrl => some "BASE_URL"
  | .fromDir => some "FROM_DIR"
  | .timeout => some "TIMEOUT"
  | .openapi => some "OPENAPI"
  | .converter => some "CONVERTER"
  | .converterArg => some "CONVERTER_ARGS"
  | .saveOpenapi => some "SAVE_OPENAPI"
  | .output => some "OUTPUT"
  | .strict => none
  | .help => none

def takesValue (o : Opt) : Bool := o.valueName?.isSome

/-- Whether the value may be any word, also one that looks like an option. -/
def takesAnything (o : Opt) : Bool := o = .converterArg

def repeats (o : Opt) : Bool := o = .converterArg

/-- Whether the value is a path, which is never empty. -/
def isPath (o : Opt) : Bool := o = .fromDir || o = .output || o = .saveOpenapi

def text (o : Opt) : Text :=
  match o.valueName? with
  | some v => "--" ++ o.name ++ " <" ++ v ++ ">"
  | none => "--" ++ o.name

end Opt

/-- The options of a command, in the order of its help. -/
def Subcommand.options : Subcommand → List Opt
  | .v1 => [.baseUrl, .fromDir, .timeout, .output, .strict, .help]
  | .generate =>
    [.baseUrl, .fromDir, .timeout, .openapi, .converter, .converterArg, .saveOpenapi, .output,
      .strict, .help]

def defaultBaseUrl : Text := "https://tornapi.tornplayground.eu/api/v1"

def defaultOpenapi : Text := "https://www.torn.com/swagger/openapi.json"

def defaultOutput : Text := "dist/index.ts"

def defaultTimeout : Nat := 10

structure SourceOptions where
  baseUrl : Text
  fromDir : Option Text
  timeout : Nat
deriving DecidableEq

structure ConverterOptions where
  program : Text
  args : List Text
  save : Option Text
deriving DecidableEq

inductive Command where
  | v1 (source : SourceOptions) (output : Option Text) (strict : Bool)
  /-- Types of both kinds; without a converter those of the first kind only. -/
  | generate (source : SourceOptions) (openapi : Text) (converter : Option ConverterOptions)
      (output : Text) (strict : Bool)
deriving DecidableEq

namespace Command

def source : Command → SourceOptions
  | .v1 s _ _ => s
  | .generate s _ _ _ _ => s

def strict : Command → Bool
  | .v1 _ _ b => b
  | .generate _ _ _ _ b => b

end Command
end CommandLine
end ApiTypes
