import ApiReference.Json.ValueTree
import ApiReference.Main
import ApiReference.Server.Lifecycle
import ApiReference.Server.Shutdown
import ApiReference.Proofs.Page.Markup
import ApiReference.Proofs.Json.Reader
import ApiReference.Proofs.Json.RoundTrip
import ApiReference.Proofs.Page.Options
import ApiReference.Proofs.Server.Views
import ApiReference.Proofs.Toml.Merge
import ApiReference.Proofs.Toml.Combining
import ApiReference.Proofs.Toml.Document
import ApiReference.Proofs.Toml.Reader
import ApiReference.Proofs.Decode.Fields
import ApiReference.Proofs.Toml.Records
import ApiReference.Proofs.Settings.Fields
import ApiReference.Proofs.Settings.Overlay
import ApiReference.Proofs.Settings.Loading
import ApiReference.Proofs.Settings.Scalars
import ApiReference.Proofs.CommandLine.Precedence
import ApiReference.Proofs.Server.Heads
import ApiReference.Proofs.Text.Split
import ApiReference.Proofs.Settings.Overrides
import ApiReference.Proofs.Settings.Order
import ApiReference.Proofs.Text.Form
import ApiReference.Proofs.Text.Entities
import ApiReference.Proofs.Server.Requests
import ApiReference.Proofs.Settings.Printed
import ApiReference.Proofs.Catalog.Insertions
import ApiReference.Proofs.Catalog.Runs
import ApiReference.Proofs.Server.Queries
import ApiReference.Proofs.Server.Working
import ApiReference.Proofs.Settings.Frames
import ApiReference.Proofs.Server.Readiness
import ApiReference.Proofs.Server.Connections
import ApiReference.Proofs.Server.Lifecycle
import ApiReference.Proofs.Json.Numbers
import ApiReference.Proofs.Json.Refusal
import ApiReference.Proofs.Json.Making
import ApiReference.Proofs.Settings.Written
import ApiReference.Proofs.Files
import ApiReference.Proofs.CommandLine.Variables
import ApiReference.Proofs.Server.Waiting
import ApiReference.Proofs.Page.Selected
import ApiReference.Proofs.Query
import ApiReference.Proofs.Settings.OneKey
import ApiReference.Proofs.Server.Copies
import ApiReference.Proofs.Server.Signals
import ApiReference.Proofs.Logging.Setups
import ApiReference.Proofs.Catalog.Texts
