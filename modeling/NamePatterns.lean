import NamePatterns.Text.Blank
import NamePatterns.Text.Lines
import NamePatterns.Text.Quoted
import NamePatterns.Text.Utf8
import NamePatterns.Text.Printable
import NamePatterns.Text.Letter
import NamePatterns.Text.CaseFold
import NamePatterns.Text.Integer
import NamePatterns.Decimal.Text
import NamePatterns.Json.Reader
import NamePatterns.Json.Writer
import NamePatterns.Regex.Alternatives
import NamePatterns.Regex.Attempt
import NamePatterns.Regex.Basic
import NamePatterns.Regex.Character
import NamePatterns.Regex.Error
import NamePatterns.Regex.Match
import NamePatterns.Regex.Parser
import NamePatterns.Regex.Repetition
import NamePatterns.Regex.Trail
import NamePatterns.Wildcard.List
import NamePatterns.Ini
import NamePatterns.Toml.Document
import NamePatterns.Project.Workspace
import NamePatterns.ErrorClass.Registry
import NamePatterns.Log.Setup
import NamePatterns.Log.Template
import NamePatterns.Value.Rows
import NamePatterns.Main
import NamePatterns.Proofs.Glob.Meaning
import NamePatterns.Proofs.Project.Batch
import NamePatterns.Proofs.Project.Failures
import NamePatterns.Proofs.Project.History
import NamePatterns.Proofs.Project.Reading
import NamePatterns.Proofs.Wildcard.Isolation
import NamePatterns.Proofs.Wildcard.Limits
import NamePatterns.Proofs.Wildcard.Union
import NamePatterns.Proofs.Regex.OpenSet
import NamePatterns.Proofs.Wildcard.OpenClass
import NamePatterns.Proofs.Wildcard.Shallow
import NamePatterns.Proofs.Glob.EmptyClass
import NamePatterns.Proofs.Glob.EscapedClass
import NamePatterns.Proofs.Glob.StrayBracket
import NamePatterns.Proofs.Files.Walk
import NamePatterns.Proofs.CommandLine.Check
import NamePatterns.Proofs.Log.Written
import NamePatterns.Proofs.CommandLine.Placement
import NamePatterns.Proofs.Text.Words
import NamePatterns.Proofs.Ini.Writing
import NamePatterns.Proofs.Config.Spellings
import NamePatterns.Proofs.Config.Document
import NamePatterns.Proofs.Wildcard.Splitting
import NamePatterns.Proofs.Wildcard.Reports
import NamePatterns.Proofs.CommandLine.Translation
import NamePatterns.Proofs.Config.Accesses
import NamePatterns.Proofs.Project.Operations
import NamePatterns.Proofs.Project.Audit
import NamePatterns.Proofs.CommandLine.Display
import NamePatterns.Proofs.Log.Configuring
import NamePatterns.Proofs.ErrorClass.Hierarchy
import NamePatterns.Proofs.Log.Emission
import NamePatterns.Proofs.Log.JsonLine
import NamePatterns.Proofs.Log.Lines
import NamePatterns.Proofs.Wildcard.Escapes
