import FactLayout.Main
import FactLayout.Files.Tree
import FactLayout.Proofs.Render.Blocks
import FactLayout.Proofs.Render.Skeleton
import FactLayout.Proofs.Layout.DefaultTemplate
import FactLayout.Proofs.Render.Escape
import FactLayout.Proofs.Render.Reading
import FactLayout.Proofs.Yaml.Margin
import FactLayout.Proofs.Yaml.Property
import FactLayout.Proofs.Yaml.Scalar
import FactLayout.Proofs.Yaml.Context
import FactLayout.Proofs.Yaml.Lexeme
import FactLayout.Proofs.Yaml.Token
import FactLayout.Proofs.Json.Blank
import FactLayout.Proofs.Text.Trim
import FactLayout.Proofs.Layout.Input
import FactLayout.Proofs.Render.Passthrough
import FactLayout.Proofs.Render.Extension
import FactLayout.Proofs.Render.Diagnostics
import FactLayout.Proofs.Number.Rational
import FactLayout.Proofs.Number.Significant
import FactLayout.Proofs.Number.Digits
import FactLayout.Proofs.Number.General
import FactLayout.Proofs.Number.Nearest
import FactLayout.Proofs.Number.Conversion
import FactLayout.Proofs.Layout.Entry
import FactLayout.Proofs.Layout.Conversion
import FactLayout.Proofs.Render.Turns
import FactLayout.Proofs.Template.Reference
import FactLayout.Proofs.Render.Numbering
import FactLayout.Proofs.Render.Buffer
import FactLayout.Proofs.Layout.Help
import FactLayout.Proofs.Render.Alternative
import FactLayout.Proofs.Render.Calls
import FactLayout.Proofs.Render.Stages
import FactLayout.Proofs.Render.Counters
import FactLayout.Proofs.CommandLine.Spelling
import FactLayout.Proofs.Layout.Sections
import FactLayout.Proofs.Files.Precedence
import FactLayout.Proofs.Files.Tree
import FactLayout.Proofs.Program.Outcome
import FactLayout.Proofs.Program.Discovery
