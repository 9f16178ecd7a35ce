import Plugboard.Command.Plugins
import Plugboard.Command.Report
import Plugboard.Command.Run
import Plugboard.Command.Usage
import Plugboard.Config.Environment
import Plugboard.Config.FileFormat
import Plugboard.Config.Load
import Plugboard.Config.Lookup
import Plugboard.Config.Reading
import Plugboard.Config.Settings
import Plugboard.Config.Tree
import Plugboard.Decimal.Layout
import Plugboard.Decimal.Nearest
import Plugboard.Decimal.Reading
import Plugboard.Decimal.Shortest
import Plugboard.Discovery
import Plugboard.Distribution.Basic
import Plugboard.Distribution.Meta
import Plugboard.Distribution.Scan
import Plugboard.Distribution.Text
import Plugboard.Error
import Plugboard.Event
import Plugboard.Files
import Plugboard.Forum.Basic
import Plugboard.Forum.Boot
import Plugboard.Forum.Hooks
import Plugboard.Forum.Modules
import Plugboard.Forum.Portal
import Plugboard.Hook.Args
import Plugboard.Hook.Call
import Plugboard.Hook.Handler
import Plugboard.Hook.Spec
import Plugboard.Hook.Table
import Plugboard.Ini
import Plugboard.Json.Basic
import Plugboard.Json.Decode
import Plugboard.Json.Reader
import Plugboard.Json.Text
import Plugboard.Json5.Quoted
import Plugboard.Json5.Reader
import Plugboard.Keyed
import Plugboard.Main
import Plugboard.Manager.Basic
import Plugboard.Manager.Load
import Plugboard.Plugin
import Plugboard.Proofs.Config.Environment
import Plugboard.Proofs.Config.Layers
import Plugboard.Proofs.Config.Override
import Plugboard.Proofs.Config.Reading
import Plugboard.Proofs.Config.Reordering
import Plugboard.Proofs.Config.Sections
import Plugboard.Proofs.Config.Serialized
import Plugboard.Proofs.Config.Tree
import Plugboard.Proofs.Decimal.Reading
import Plugboard.Proofs.Distribution.AddressList
import Plugboard.Proofs.Distribution.AddressParts
import Plugboard.Proofs.Distribution.Description
import Plugboard.Proofs.Distribution.EntryPoints
import Plugboard.Proofs.Distribution.Headers
import Plugboard.Proofs.Distribution.HomePage
import Plugboard.Proofs.Distribution.Label
import Plugboard.Proofs.Distribution.Reference
import Plugboard.Proofs.Distribution.Scan
import Plugboard.Proofs.Distribution.Serialized
import Plugboard.Proofs.Files
import Plugboard.Proofs.Forum.Answers
import Plugboard.Proofs.Forum.Boot
import Plugboard.Proofs.Forum.Disabled
import Plugboard.Proofs.Forum.Listing
import Plugboard.Proofs.Forum.Staff
import Plugboard.Proofs.Hook.Arguments
import Plugboard.Proofs.Hook.Failures
import Plugboard.Proofs.Hook.Spec
import Plugboard.Proofs.Hook.Table
import Plugboard.Proofs.Json.Reading
import Plugboard.Proofs.Json.Record
import Plugboard.Proofs.Manager.Blocking
import Plugboard.Proofs.Manager.Confinement
import Plugboard.Proofs.Manager.Conformance
import Plugboard.Proofs.Manager.Dispatch
import Plugboard.Proofs.Manager.Growth
import Plugboard.Proofs.Manager.Idle
import Plugboard.Proofs.Manager.Interchange
import Plugboard.Proofs.Manager.Introspection
import Plugboard.Proofs.Manager.Ledger
import Plugboard.Proofs.Manager.Lockstep
import Plugboard.Proofs.Manager.Naming
import Plugboard.Proofs.Manager.Objects
import Plugboard.Proofs.Manager.Origin
import Plugboard.Proofs.Manager.Overlay
import Plugboard.Proofs.Manager.Parking
import Plugboard.Proofs.Manager.Records
import Plugboard.Proofs.Manager.Repetition
import Plugboard.Proofs.Manager.Reversal
import Plugboard.Proofs.Manager.Roster
import Plugboard.Proofs.Manager.Run
import Plugboard.Proofs.Manager.Simulation
import Plugboard.Proofs.Manager.Specifications
import Plugboard.Proofs.Registry.Checks
import Plugboard.Proofs.Registry.Coherence
import Plugboard.Proofs.Registry.Conformance
import Plugboard.Proofs.Registry.Operations
import Plugboard.Proofs.Registry.Specifications
import Plugboard.Proofs.Serialized
import Plugboard.Proofs.Text.Lines
import Plugboard.Proofs.Text.Lowercase
import Plugboard.Proofs.Text.Order
import Plugboard.Proofs.Text.Trimming
import Plugboard.Proofs.Toml.Distinct
import Plugboard.Registry
import Plugboard.Ron.Number
import Plugboard.Ron.Quoted
import Plugboard.Ron.Reader
import Plugboard.Ron.Word
import Plugboard.Text.Blank
import Plugboard.Text.CharColumns
import Plugboard.Text.Columns
import Plugboard.Text.Emoji
import Plugboard.Text.Hex
import Plugboard.Text.Letters
import Plugboard.Text.Lines
import Plugboard.Text.Lowercase
import Plugboard.Text.Order
import Plugboard.Text.Quoted
import Plugboard.Text.Ranges
import Plugboard.Text.Utf8
import Plugboard.Toml.Document
import Plugboard.Toml.Moment
import Plugboard.Toml.Quoted
import Plugboard.Toml.Reader
import Plugboard.Toml.Word
import Plugboard.Yaml.Lexer.Basic
import Plugboard.Yaml.Lexer.Run
import Plugboard.Yaml.Lexer.Sign
import Plugboard.Yaml.Place
import Plugboard.Yaml.Reader
import Plugboard.Yaml.Scalar
import Plugboard.Yaml.Tag
import Plugboard.Yaml.Token
import Plugboard.Yaml.Value
