import ApiTypes.CommandLine.Parse
/-!
# Pages of help

Help stands beside what it explains.  Where the names take up so much of a line that some help would
not fit beside them, all help of the list goes on lines of its own.
-/
namespace ApiTypes
namespace CommandLine

def programName : Text := "tornapi-typegen"

def programAbout : Text := "Generate TypeScript types for the Torn API"

def versionText : Text := programName ++ " 0.1.0\n"

structure Row where
  name : Text
  help : Text

def lineWidth : Nat := 100

def margin : Nat := 12

def longestName (rows : List Row) : Nat := rows.foldl (fun n r => max n r.name.length) 0

/-- Whether the help of a list goes on lines of its own: names and margin take more than two fifths
of a line, and some help is longer than the rest of it. -/
def isTall (rows : List Row) : Bool :=
  let taken := longestName rows + margin
  2 * lineWidth < 5 * taken && rows.any (fun r => lineWidth - taken < r.help.length)

def renderRows (rows : List Row) (indent : Row → Text) : List Text :=
  rows.map fun r =>
    let head := indent r ++ r.name
    if isTall rows then head ++ "\n          " ++ r.help
    else head ++ List.replicate (longestName rows + 2 - r.name.length) ' ' ++ r.help

def defaultText (value : Text) : Text := " [default: " ++ value ++ "]"

def optionHelp (s : Subcommand) : Opt → Text
  | .baseUrl => "Base URL of the V1 schema service" ++ defaultText defaultBaseUrl
  | .fromDir =>
    "Read the V1 schema from a snapshot directory instead "
      ++ "(sections.json, errors.json, schema/<section>.json)"
  | .timeout => "HTTP timeout in seconds" ++ defaultText (Text.ofNat defaultTimeout)
  | .openapi => "OpenAPI document: file path or URL" ++ defaultText defaultOpenapi
  | .converter =>
    "Converter program; reads OpenAPI JSON on stdin, writes TypeScript to stdout. "
      ++ "V2 generation is skipped when absent"
  | .converterArg => "Argument passed to the converter (repeatable)"
  | .saveOpenapi => "Also save the fetched OpenAPI document here"
  | .output =>
    match s with
    | .v1 => "Output file (stdout if not specified)"
    | .generate => "Output file" ++ defaultText defaultOutput
  | .strict => "Fail without writing output if any warning was reported"
  | .help => "Print help"

/-- The rows of a command's options.  The letter of the one that asks for help stands in the
indent. -/
def optionRows (s : Subcommand) : List Row := s.options.map (fun o => ⟨o.text, optionHelp s o⟩)

def optionIndent (r : Row) : Text := if r.name = Opt.help.text then "  -h, " else "      "

def helpAbout : Text := "Print this message or the help of the given subcommand(s)"

def Page.text : Page → Text
  | .overview =>
    let commands : List Row :=
      Subcommand.all.map (fun s => ⟨s.name, s.about⟩) ++ [⟨helpWord, helpAbout⟩]
    let options : List Row := [⟨"-h, --help", "Print help"⟩, ⟨"-V, --version", "Print version"⟩]
    Text.joinLines
      ([programAbout, [], "Usage: " ++ programName ++ " <COMMAND>", [], "Commands:"]
        ++ renderRows commands (fun _ => "  ") ++ [[], "Options:"]
        ++ renderRows options (fun _ => "  ") ++ [[]])
  | .command s =>
    Text.joinLines
      ([s.about, [], "Usage: " ++ programName ++ " " ++ s.name ++ " [OPTIONS]", [], "Options:"]
        ++ renderRows (optionRows s) optionIndent ++ [[]])
  | .help =>
    Text.joinLines
      [helpAbout, [], "Usage: " ++ programName ++ " help [COMMAND]...", [], "Arguments:",
        "  [COMMAND]...  Print help for the subcommand(s)", []]

end CommandLine
end ApiTypes
