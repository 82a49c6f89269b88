import ContractAtlas.Text.Blank
import ContractAtlas.Text.CaseMap
import ContractAtlas.Text.Quoted
import ContractAtlas.Decimal.Shortest
import ContractAtlas.Json.Display
import ContractAtlas.Json.Writer
import ContractAtlas.Json.Reader
import ContractAtlas.Source.TypeName
import ContractAtlas.Schema.Shape
import ContractAtlas.Source.Node
import ContractAtlas.Source.Calls
import ContractAtlas.Contract.Detail
import ContractAtlas.Contract.Record
import ContractAtlas.Disk.Operations
import ContractAtlas.Contract.Extraction
import ContractAtlas.Contract.Limited
import ContractAtlas.Document.Error
import ContractAtlas.Yaml.Error
import ContractAtlas.Atlas.Build
import ContractAtlas.Atlas.Listing
import ContractAtlas.Yaml.Cursor
import ContractAtlas.Explorer.Row
import ContractAtlas.Command.Arguments
import ContractAtlas.Yaml.Scalar
import ContractAtlas.Yaml.Property
import ContractAtlas.Yaml.Token.Scan
import ContractAtlas.Yaml.Graph.OfTokens
import ContractAtlas.Yaml.Value.Reader
import ContractAtlas.Yaml.Writer
import ContractAtlas.Settings.Basic
import ContractAtlas.Command.Run
import ContractAtlas.Workspace.Explorer
import ContractAtlas.Main
import ContractAtlas.Proofs.Contract.Members
import ContractAtlas.Proofs.Contract.SourceUnit
import ContractAtlas.Proofs.Contract.Limited
import ContractAtlas.Proofs.Disk.Faults
import ContractAtlas.Proofs.Disk.Sound
import ContractAtlas.Proofs.Disk.Changes
import ContractAtlas.Proofs.Document.Walk
import ContractAtlas.Proofs.Document.Loading
import ContractAtlas.Proofs.Json.LongInteger
import ContractAtlas.Proofs.Text.Octets
import ContractAtlas.Proofs.Atlas.Build
import ContractAtlas.Proofs.Atlas.Lenient
import ContractAtlas.Proofs.Atlas.Names
import ContractAtlas.Proofs.Atlas.Rack
import ContractAtlas.Proofs.Atlas.Assembly
import ContractAtlas.Proofs.Explorer.Run
import ContractAtlas.Proofs.Explorer.Filter
import ContractAtlas.Proofs.Explorer.Freshness
import ContractAtlas.Proofs.Explorer.Refresh
import ContractAtlas.Proofs.Explorer.Title
import ContractAtlas.Proofs.Contract.Notes
import ContractAtlas.Proofs.Text.Tags
import ContractAtlas.Proofs.Text.Spans
import ContractAtlas.Proofs.Contract.Detail
import ContractAtlas.Proofs.Contract.Inert
import ContractAtlas.Proofs.Schema.Sound
import ContractAtlas.Proofs.Schema.Tidy
import ContractAtlas.Proofs.Schema.StandardForm
import ContractAtlas.Proofs.Text.Boundary
import ContractAtlas.Proofs.Document.Order
import ContractAtlas.Proofs.Document.Relisting
import ContractAtlas.Proofs.Atlas.Documents
import ContractAtlas.Proofs.Source.Expression
import ContractAtlas.Proofs.Source.TypeName
import ContractAtlas.Proofs.Yaml.Keyed
import ContractAtlas.Proofs.Text.Encoding
import ContractAtlas.Proofs.Settings.Configuration
import ContractAtlas.Proofs.Text.LetterCase
import ContractAtlas.Proofs.Settings.Sources
import ContractAtlas.Proofs.Command.Configuration
import ContractAtlas.Proofs.Command.Listing
import ContractAtlas.Proofs.Contract.Views
import ContractAtlas.Proofs.Atlas.Totals
