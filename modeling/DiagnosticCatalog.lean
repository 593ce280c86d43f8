import DiagnosticCatalog.Layer.Operation
import DiagnosticCatalog.Layer.Query
import DiagnosticCatalog.Main
import DiagnosticCatalog.Registry.Query
import DiagnosticCatalog.Settings.Schema
import DiagnosticCatalog.Value.Order
import DiagnosticCatalog.Proofs.Decimal.Numeral
import DiagnosticCatalog.Proofs.Registry.DecimalToken
import DiagnosticCatalog.Proofs.Registry.Write
import DiagnosticCatalog.Proofs.Descent
import DiagnosticCatalog.Proofs.Registry.Effect
import DiagnosticCatalog.Proofs.Table
import DiagnosticCatalog.Proofs.Registry.Index
import DiagnosticCatalog.Proofs.Declaration
import DiagnosticCatalog.Proofs.Declaration.Fault
import DiagnosticCatalog.Proofs.Registry.History
import DiagnosticCatalog.Proofs.Registry.Inheritance
import DiagnosticCatalog.Proofs.Registry.Bootstrap
import DiagnosticCatalog.Proofs.Registry.Order
import DiagnosticCatalog.Proofs.IssueName
import DiagnosticCatalog.Proofs.Standard
import DiagnosticCatalog.Proofs.Registry.Request
import DiagnosticCatalog.Proofs.Registry.Batch
import DiagnosticCatalog.Proofs.Registry.Preset
import DiagnosticCatalog.Proofs.Settings
import DiagnosticCatalog.Proofs.CommandLine.Precedence
import DiagnosticCatalog.Proofs.Json.Schema
import DiagnosticCatalog.Proofs.Settings.Grammar
import DiagnosticCatalog.Proofs.Json.Reader
import DiagnosticCatalog.Proofs.Settings.Load
import DiagnosticCatalog.Proofs.Settings.Schema
import DiagnosticCatalog.Proofs.Settings.Strictest
import DiagnosticCatalog.Proofs.Registry.Failure
import DiagnosticCatalog.Proofs.Layer.Refusal
import DiagnosticCatalog.Proofs.Registry.Commute
import DiagnosticCatalog.Proofs.Layer
import DiagnosticCatalog.Proofs.Layer.Preset
import DiagnosticCatalog.Proofs.Layer.History
import DiagnosticCatalog.Proofs.Registry.Reset
import DiagnosticCatalog.Proofs.CommandLine.Status
import DiagnosticCatalog.Proofs.Text.Blank
import DiagnosticCatalog.Proofs.Text.Lower
import DiagnosticCatalog.Proofs.Registry.Resolution
import DiagnosticCatalog.Proofs.Json.RoundTrip
import DiagnosticCatalog.Proofs.Value.Rearranged
import DiagnosticCatalog.Proofs.Value.Canonical
import DiagnosticCatalog.Proofs.Registry.Address
import DiagnosticCatalog.Proofs.Registry.PresetOutcome
import DiagnosticCatalog.Proofs.Decimal.Shortest
import DiagnosticCatalog.Proofs.Settings.Number
import DiagnosticCatalog.Proofs.Settings.TokenOrder
import DiagnosticCatalog.Proofs.Json.Place
import DiagnosticCatalog.Proofs.Settings.Place
import DiagnosticCatalog.Proofs.Settings.Format
import DiagnosticCatalog.Proofs.Text.Ascii
import DiagnosticCatalog.Proofs.Spelling
import DiagnosticCatalog.Proofs.Value.EntryOrder
import DiagnosticCatalog.Proofs.Layer.Definition
import DiagnosticCatalog.Proofs.CommandLine.Row
import DiagnosticCatalog.Proofs.CommandLine.Listing
import DiagnosticCatalog.Proofs.IssueName.Pieces
import DiagnosticCatalog.Proofs.Registry.Collision
