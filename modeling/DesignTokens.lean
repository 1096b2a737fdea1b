import DesignTokens.CommandLine.Grammar
import DesignTokens.CommandLine.Help
import DesignTokens.CommandLine.Invocation
import DesignTokens.Console
import DesignTokens.Document
import DesignTokens.File.Path
import DesignTokens.File.Tree
import DesignTokens.Glob.Braces
import DesignTokens.Glob.Pattern
import DesignTokens.Glob.Wildcard
import DesignTokens.Journal
import DesignTokens.Main
import DesignTokens.Number.Decimal
import DesignTokens.Number.Integer
import DesignTokens.OrderedMap
import DesignTokens.Proofs.Catalogue.Repetition
import DesignTokens.Proofs.Catalogue.Resolution
import DesignTokens.Proofs.Catalogue.Trail
import DesignTokens.Proofs.Chain
import DesignTokens.Proofs.Document.LineEnds
import DesignTokens.Proofs.Failure
import DesignTokens.Proofs.File.Path
import DesignTokens.Proofs.File.Tree
import DesignTokens.Proofs.Glob.Braces
import DesignTokens.Proofs.Glob.Expansion
import DesignTokens.Proofs.Glob.Reading
import DesignTokens.Proofs.Glob.Walk
import DesignTokens.Proofs.History
import DesignTokens.Proofs.OrderedMap
import DesignTokens.Proofs.Registry.Indices
import DesignTokens.Proofs.Registry.Search
import DesignTokens.Proofs.Scanner.Agreement
import DesignTokens.Proofs.Scanner.Completeness
import DesignTokens.Proofs.Scanner.Lookup
import DesignTokens.Proofs.Scanner.Memory
import DesignTokens.Proofs.Scanner.Nesting
import DesignTokens.Proofs.Scanner.Range
import DesignTokens.Proofs.Script.Config
import DesignTokens.Proofs.Script.Extraction
import DesignTokens.Proofs.Script.Property
import DesignTokens.Proofs.Session.Counting
import DesignTokens.Proofs.Session.Disabled
import DesignTokens.Proofs.Session.Layers
import DesignTokens.Proofs.Session.Opening
import DesignTokens.Proofs.Settings.Loading
import DesignTokens.Proofs.Signal.Delivery
import DesignTokens.Proofs.Signal.Subscription
import DesignTokens.Proofs.Source.Category
import DesignTokens.Proofs.Source.Detection
import DesignTokens.Proofs.Source.Failure
import DesignTokens.Proofs.Style.Comment
import DesignTokens.Proofs.Style.Commented
import DesignTokens.Proofs.Style.Concatenation
import DesignTokens.Proofs.Style.DarkScope
import DesignTokens.Proofs.Style.Definition
import DesignTokens.Proofs.Style.Layout
import DesignTokens.Proofs.Style.Leftover
import DesignTokens.Proofs.Style.Quoting
import DesignTokens.Proofs.Style.Reference
import DesignTokens.Proofs.Style.Resolution
import DesignTokens.Proofs.Style.Rule
import DesignTokens.Proofs.Style.Selector
import DesignTokens.Proofs.Text.Braces
import DesignTokens.Proofs.Text.Split
import DesignTokens.Proofs.Text.Stretch
import DesignTokens.Proofs.Text.Words
import DesignTokens.Proofs.Watch.Debouncer
import DesignTokens.Proofs.Watch.Hub
import DesignTokens.Proofs.Watch.Overtaking
import DesignTokens.Proofs.Watch.Silence
import DesignTokens.Proofs.Workspace.Adding
import DesignTokens.Proofs.Workspace.Authority
import DesignTokens.Proofs.Workspace.Candidates
import DesignTokens.Proofs.Workspace.Changes
import DesignTokens.Proofs.Workspace.Discovery
import DesignTokens.Proofs.Workspace.Freshness
import DesignTokens.Proofs.Workspace.InStep
import DesignTokens.Proofs.Workspace.Loading
import DesignTokens.Proofs.Workspace.Moves
import DesignTokens.Proofs.Workspace.Notes
import DesignTokens.Proofs.Workspace.Observers
import DesignTokens.Proofs.Workspace.Repetition
import DesignTokens.Proofs.Workspace.Rescan
import DesignTokens.Proofs.Workspace.Restart
import DesignTokens.Proofs.Workspace.TokenFiles
import DesignTokens.Proofs.Workspace.UpToDate
import DesignTokens.Proofs.Workspace.Watching
import DesignTokens.Registry.Basic
import DesignTokens.Registry.Search
import DesignTokens.Scanner
import DesignTokens.Script.Properties
import DesignTokens.Session.Basic
import DesignTokens.Session.Report
import DesignTokens.Session.Run
import DesignTokens.Settings.Descriptor
import DesignTokens.Settings.Loading
import DesignTokens.Settings.Validation
import DesignTokens.Settings.Violation
import DesignTokens.Signal
import DesignTokens.Source.Basic
import DesignTokens.Source.Bundled.Dark
import DesignTokens.Source.Bundled.Descriptions
import DesignTokens.Source.Bundled.Light
import DesignTokens.Source.Dataset
import DesignTokens.Source.Detection
import DesignTokens.Style.Comment
import DesignTokens.Style.Reference
import DesignTokens.Style.Rule
import DesignTokens.Style.Selector
import DesignTokens.Style.Variables
import DesignTokens.Text.Basic
import DesignTokens.Text.Blank
import DesignTokens.Text.Lower
import DesignTokens.Text.Quoted
import DesignTokens.Text.Surrogate
import DesignTokens.Text.Utf8
import DesignTokens.Text.Word
import DesignTokens.Token.Category
import DesignTokens.Token.Color
import DesignTokens.Token.Name
import DesignTokens.Token.Record
import DesignTokens.Token.Theme
import DesignTokens.Watch.Debouncer
import DesignTokens.Watch.Event
import DesignTokens.Watch.Hub
import DesignTokens.Watch.Timer
import DesignTokens.Workspace.Basic
import DesignTokens.Workspace.Catalogue
import DesignTokens.Workspace.Discovery
import DesignTokens.Workspace.Following
import DesignTokens.Yaml.Cursor
import DesignTokens.Yaml.Document
import DesignTokens.Yaml.Fault
import DesignTokens.Yaml.Lexer
import DesignTokens.Yaml.Members
import DesignTokens.Yaml.Merge
import DesignTokens.Yaml.Node
import DesignTokens.Yaml.Scalar
import DesignTokens.Yaml.Stream
import DesignTokens.Yaml.Tag
import DesignTokens.Yaml.Timestamp
import DesignTokens.Yaml.Token
import DesignTokens.Yaml.Value
