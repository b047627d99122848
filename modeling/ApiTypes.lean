import ApiTypes.Text.Blank
import ApiTypes.Text.Case
import ApiTypes.Text.Quoted
import ApiTypes.Text.Utf8
import ApiTypes.Double.Shortest
import ApiTypes.Json.Render
import ApiTypes.Json.Parse
import ApiTypes.Diagnostic
import ApiTypes.Schema.Decode
import ApiTypes.Declaration
import ApiTypes.ErrorEnum
import ApiTypes.Artifact
import ApiTypes.OpenApi
import ApiTypes.Snapshot
import ApiTypes.Conversion
import ApiTypes.CommandLine.Run
import ApiTypes.Main
import ApiTypes.Script
import ApiTypes.Script.Source
import ApiTypes.Script.Word
import ApiTypes.Script.Grammar
import ApiTypes.Script.Arithmetic
import ApiTypes.Script.Pattern
import ApiTypes.Program
import ApiTypes.Script.Fields
import ApiTypes.Script.Session
import ApiTypes.Script.Expand
import ApiTypes.Script.Format
import ApiTypes.Script.Judgement
import ApiTypes.Script.Builtin
import ApiTypes.Script.Redirect
import ApiTypes.Script.Run
import ApiTypes.Proofs.Text.Lines
import ApiTypes.Proofs.Text.Case
import ApiTypes.Proofs.Schema.Depth
import ApiTypes.Proofs.Section.Items
import ApiTypes.Proofs.Section.Diagnostics
import ApiTypes.Proofs.Section.Lines
import ApiTypes.Proofs.Section.References
import ApiTypes.Proofs.TypeExpr.Meaning
import ApiTypes.Proofs.TypeExpr.Reader
import ApiTypes.Proofs.Schema.Reading
import ApiTypes.Proofs.Artifact.Sections
import ApiTypes.Proofs.Schema.Edit
import ApiTypes.Proofs.Section.Locality
import ApiTypes.Proofs.Disk.Tree
import ApiTypes.Proofs.Disk.Write
import ApiTypes.Proofs.CommandLine.Writes
import ApiTypes.Proofs.Attempt
import ApiTypes.Proofs.Schema.Members
import ApiTypes.Proofs.CommandLine.Strict
import ApiTypes.Proofs.Text.Utf8
import ApiTypes.Proofs.Json.Within
import ApiTypes.Proofs.Json.Scalar
import ApiTypes.Proofs.Json.RoundTrip
import ApiTypes.Proofs.Json.Saved
import ApiTypes.Proofs.Disk.Above
import ApiTypes.Proofs.Disk.Refusal
import ApiTypes.Proofs.Naming.Words
import ApiTypes.Proofs.Section.Names
import ApiTypes.Proofs.Text.Words
import ApiTypes.Proofs.Naming.Gaps
import ApiTypes.Proofs.Section.Enumerations
import ApiTypes.Proofs.Schema.Keys
import ApiTypes.Proofs.Section.Identifiers
import ApiTypes.Proofs.ErrorEnum.Words
import ApiTypes.Proofs.ErrorEnum.Rewording
import ApiTypes.Proofs.ErrorEnum.Members
import ApiTypes.Proofs.Text.Numeral
import ApiTypes.Proofs.Schema.Ids
import ApiTypes.Proofs.Section.Registered
import ApiTypes.Proofs.Text.Replace
import ApiTypes.Proofs.OpenApi.Tidy
import ApiTypes.Proofs.Schema.Shape
