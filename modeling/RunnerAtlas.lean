import RunnerAtlas.Automaton
import RunnerAtlas.Calendar
import RunnerAtlas.CommandLine.Arguments
import RunnerAtlas.CommandLine.Execution
import RunnerAtlas.CommandLine.Flag
import RunnerAtlas.CommandLine.Parsing
import RunnerAtlas.CommandLine.Run
import RunnerAtlas.CommandLine.Usage
import RunnerAtlas.CommandLine.Word
import RunnerAtlas.Decimal.Binary64
import RunnerAtlas.Decimal.Reading
import RunnerAtlas.Decimal.Rounded
import RunnerAtlas.Decimal.Shortest
import RunnerAtlas.Device.Basic
import RunnerAtlas.Device.Inventory
import RunnerAtlas.Device.Listing
import RunnerAtlas.Device.Supply
import RunnerAtlas.Document.Fault
import RunnerAtlas.Document.Feed
import RunnerAtlas.Document.Literal
import RunnerAtlas.Document.Node
import RunnerAtlas.Document.Plain
import RunnerAtlas.Document.Quoted
import RunnerAtlas.Document.Reading
import RunnerAtlas.Document.Scalar
import RunnerAtlas.Document.Scanner
import RunnerAtlas.Document.Tag
import RunnerAtlas.Document.Token
import RunnerAtlas.Files.Path
import RunnerAtlas.Files.Tree
import RunnerAtlas.Journal.Console
import RunnerAtlas.Journal.Record
import RunnerAtlas.Journal.Session
import RunnerAtlas.Journal.Template
import RunnerAtlas.Loading
import RunnerAtlas.Main
import RunnerAtlas.Matching
import RunnerAtlas.Pattern.Basic
import RunnerAtlas.Pattern.Bracket
import RunnerAtlas.Pattern.Branches
import RunnerAtlas.Pattern.Escape
import RunnerAtlas.Pattern.Fault
import RunnerAtlas.Pattern.Group
import RunnerAtlas.Pattern.Membership
import RunnerAtlas.Pattern.Node
import RunnerAtlas.Pattern.Reader
import RunnerAtlas.Pattern.Repetition
import RunnerAtlas.Pattern.Search
import RunnerAtlas.Pattern.Warning
import RunnerAtlas.Platform
import RunnerAtlas.Project.Basic
import RunnerAtlas.Project.Definition
import RunnerAtlas.Report.Basic
import RunnerAtlas.Report.Runners
import RunnerAtlas.Resolution
import RunnerAtlas.Settings.Basic
import RunnerAtlas.Settings.Loading
import RunnerAtlas.Settings.Override
import RunnerAtlas.Store.Basic
import RunnerAtlas.Store.Layers
import RunnerAtlas.Text.Blank
import RunnerAtlas.Text.CharacterName
import RunnerAtlas.Text.Digit
import RunnerAtlas.Text.Identifier
import RunnerAtlas.Text.Letter
import RunnerAtlas.Text.LetterCase
import RunnerAtlas.Text.Lines
import RunnerAtlas.Text.Printable
import RunnerAtlas.Text.Quoted
import RunnerAtlas.Text.Ranges
import RunnerAtlas.Text.Utf8
import RunnerAtlas.Validation.Check
import RunnerAtlas.Validation.Problem
import RunnerAtlas.Value.Basic
import RunnerAtlas.Value.Literal
import RunnerAtlas.Value.Mapping
import RunnerAtlas.Value.Merge
import RunnerAtlas.Proofs.Outcomes
import RunnerAtlas.Proofs.Candidates
import RunnerAtlas.Proofs.Matching
import RunnerAtlas.Proofs.Resolution.Target
import RunnerAtlas.Proofs.Resolution.Entries
import RunnerAtlas.Proofs.Resolution.Failure
import RunnerAtlas.Proofs.Pattern.Literal
import RunnerAtlas.Proofs.LiteralSearch
import RunnerAtlas.Proofs.CheckedInventory
import RunnerAtlas.Proofs.Listing
import RunnerAtlas.Proofs.Definition
import RunnerAtlas.Proofs.ParsedInput
import RunnerAtlas.Proofs.Pattern.Errors
import RunnerAtlas.Proofs.Pattern.LargeBound
import RunnerAtlas.Proofs.PlatformErrors
import RunnerAtlas.Proofs.Document.Keys
import RunnerAtlas.Proofs.Settings.Sections
import RunnerAtlas.Proofs.Settings.Layers
import RunnerAtlas.Proofs.Value.Equality
import RunnerAtlas.Proofs.Settings.Replacement
import RunnerAtlas.Proofs.Document.Taking
import RunnerAtlas.Proofs.Json.Grammar
import RunnerAtlas.Proofs.Json.Strings
import RunnerAtlas.Proofs.Document.Words
import RunnerAtlas.Proofs.Document.Scanning
import RunnerAtlas.Proofs.Json.Numbers
import RunnerAtlas.Proofs.Json.Tokens
import RunnerAtlas.Proofs.Document.Composing
import RunnerAtlas.Proofs.Json.Nodes
import RunnerAtlas.Proofs.Json.Portability
import RunnerAtlas.Proofs.Json.Reports
import RunnerAtlas.Proofs.CommandLine.Parsing
import RunnerAtlas.Proofs.CommandLine.Chunks
import RunnerAtlas.Proofs.CommandLine.Stages
import RunnerAtlas.Proofs.Settings.Leaves
import RunnerAtlas.Proofs.Settings.Unset
import RunnerAtlas.Proofs.CommandLine.Switches
import RunnerAtlas.Proofs.Text.LetterCase
import RunnerAtlas.Proofs.Text.PlainLetters
import RunnerAtlas.Proofs.Pattern.Alternatives
import RunnerAtlas.Proofs.Pattern.Choice
import RunnerAtlas.Proofs.Alternation
import RunnerAtlas.Proofs.IgnoringCase
import RunnerAtlas.Proofs.Automaton
import RunnerAtlas.Proofs.Journal.Sessions
import RunnerAtlas.Proofs.Inventory
import RunnerAtlas.Proofs.DefinitionErrors
import RunnerAtlas.Proofs.Journal.Emissions
import RunnerAtlas.Proofs.CommandLine.LogFormat
import RunnerAtlas.Proofs.CommandLine.Reporting
import RunnerAtlas.Proofs.Resolution.Appearance
import RunnerAtlas.Proofs.Resolution.Collisions
import RunnerAtlas.Proofs.Resolution.Groups
import RunnerAtlas.Proofs.Resolution.Trace
import RunnerAtlas.Proofs.Resolution.Labels
import RunnerAtlas.Proofs.Availability
import RunnerAtlas.Proofs.PlainPlatforms
import RunnerAtlas.Proofs.Store.Basic
import RunnerAtlas.Proofs.Store.Merging
import RunnerAtlas.Proofs.Value.Keys
import RunnerAtlas.Proofs.Value.Merging
import RunnerAtlas.Proofs.Store.Overriding
import RunnerAtlas.Proofs.Settings.Overrides
import RunnerAtlas.Proofs.Json.Decoder
import RunnerAtlas.Proofs.Json.Decoding
import RunnerAtlas.Proofs.Journal.JsonLines
import RunnerAtlas.Proofs.Journal.Warned
import RunnerAtlas.Proofs.CommandLine.JsonLines
import RunnerAtlas.Proofs.Json.Soundness
