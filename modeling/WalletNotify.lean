import WalletNotify.Cli.Arguments
import WalletNotify.Cli.Page
import WalletNotify.Cli.Session
import WalletNotify.Cli.Similarity
import WalletNotify.Cli.UsageError
import WalletNotify.Config.Basic
import WalletNotify.Config.Environment
import WalletNotify.Config.Literal
import WalletNotify.Config.Load
import WalletNotify.Config.Read
import WalletNotify.Config.Setting
import WalletNotify.Decimal.Binary64
import WalletNotify.Decimal.Shortest
import WalletNotify.Event.Basic
import WalletNotify.Event.Block
import WalletNotify.Event.Conversion
import WalletNotify.Event.Kind
import WalletNotify.Event.Utxo
import WalletNotify.Hash.Sha256
import WalletNotify.Hub.Basic
import WalletNotify.Hub.Channel
import WalletNotify.Hub.Poll
import WalletNotify.Hub.Run
import WalletNotify.Json.Number
import WalletNotify.Json.Read
import WalletNotify.Json.Scalar
import WalletNotify.Json.Scan
import WalletNotify.Json.Skip
import WalletNotify.Json.Write
import WalletNotify.Main
import WalletNotify.Record.Shape
import WalletNotify.Schema.Catalogue
import WalletNotify.Schema.Enumeration
import WalletNotify.Schema.Message
import WalletNotify.Schema.Preview
import WalletNotify.Schema.Stable
import WalletNotify.Server.Api
import WalletNotify.Server.Fleet
import WalletNotify.Server.Interleaving
import WalletNotify.Server.Log
import WalletNotify.Server.Requests
import WalletNotify.Server.Serve
import WalletNotify.Server.Service
import WalletNotify.Server.Socket
import WalletNotify.Text.Hex
import WalletNotify.Text.Keyed
import WalletNotify.Text.Listing
import WalletNotify.Text.Quoted
import WalletNotify.Text.Utf8
import WalletNotify.Time.Duration
import WalletNotify.Toml.Basic
import WalletNotify.Toml.Document
import WalletNotify.Toml.Fault
import WalletNotify.Toml.Moment
import WalletNotify.Toml.Node
import WalletNotify.Toml.Number
import WalletNotify.Toml.Text
import WalletNotify.Toml.Value
import WalletNotify.Toml.Write
import WalletNotify.Trace.Context
import WalletNotify.Trace.Span
import WalletNotify.Unicode.Composites
import WalletNotify.Unicode.Direction
import WalletNotify.Unicode.DomainMapping
import WalletNotify.Unicode.Joining
import WalletNotify.Unicode.Marks
import WalletNotify.Unicode.Normal
import WalletNotify.Unicode.Printable
import WalletNotify.Unicode.Ranges
import WalletNotify.Url.Address
import WalletNotify.Url.Basic
import WalletNotify.Url.Domain
import WalletNotify.Url.Fault
import WalletNotify.Url.Host
import WalletNotify.Url.Path
import WalletNotify.Url.Percent
import WalletNotify.Url.Punycode
import WalletNotify.Url.Read
import WalletNotify.Wallet.Display
import WalletNotify.Webhook.Basic
import WalletNotify.Webhook.Delivery
import WalletNotify.Webhook.Dispatcher
import WalletNotify.Webhook.Flight
import WalletNotify.Webhook.Payload
import WalletNotify.Webhook.Registry
import WalletNotify.Webhook.Sharing
import WalletNotify.Wire.Decode
import WalletNotify.Wire.Encode
import WalletNotify.Wire.Fault
import WalletNotify.Wire.Key
import WalletNotify.Wire.Scalar
import WalletNotify.Wire.Skip
import WalletNotify.Wire.Varint
import WalletNotify.Proofs.Config.Layering
import WalletNotify.Proofs.Config.Leaf
import WalletNotify.Proofs.Config.Overlay
import WalletNotify.Proofs.Event.Acceptance
import WalletNotify.Proofs.Event.Kind
import WalletNotify.Proofs.Event.Transport
import WalletNotify.Proofs.Hub.Accounting
import WalletNotify.Proofs.Hub.Channel
import WalletNotify.Proofs.Hub.Closing
import WalletNotify.Proofs.Hub.Draining
import WalletNotify.Proofs.Hub.Ending
import WalletNotify.Proofs.Hub.History
import WalletNotify.Proofs.Hub.Isolation
import WalletNotify.Proofs.Hub.Poll
import WalletNotify.Proofs.Hub.Promise
import WalletNotify.Proofs.Hub.Reclosing
import WalletNotify.Proofs.Hub.Sight
import WalletNotify.Proofs.Hub.Step
import WalletNotify.Proofs.Hub.Unread
import WalletNotify.Proofs.Json.Document
import WalletNotify.Proofs.Json.Grammar
import WalletNotify.Proofs.Json.Layout
import WalletNotify.Proofs.Json.Reading
import WalletNotify.Proofs.Json.Rearrangement
import WalletNotify.Proofs.Json.RoundTrip
import WalletNotify.Proofs.Json.Strings
import WalletNotify.Proofs.Json.Token
import WalletNotify.Proofs.Record.Names
import WalletNotify.Proofs.Result
import WalletNotify.Proofs.Run
import WalletNotify.Proofs.Schema.Concatenation
import WalletNotify.Proofs.Schema.Message
import WalletNotify.Proofs.Schema.Nesting
import WalletNotify.Proofs.Schema.Rearrangement
import WalletNotify.Proofs.Schema.RoundTrip
import WalletNotify.Proofs.Schema.Truncation
import WalletNotify.Proofs.Server.Closing
import WalletNotify.Proofs.Server.Fleet
import WalletNotify.Proofs.Server.History
import WalletNotify.Proofs.Server.Interleaving
import WalletNotify.Proofs.Server.Requests
import WalletNotify.Proofs.Server.Routing
import WalletNotify.Proofs.Server.Secrecy
import WalletNotify.Proofs.Server.Serving
import WalletNotify.Proofs.Server.Stopping
import WalletNotify.Proofs.Text.Hex
import WalletNotify.Proofs.Text.HexFault
import WalletNotify.Proofs.Text.Keyed
import WalletNotify.Proofs.Toml.Tables
import WalletNotify.Proofs.Webhook.Agreement
import WalletNotify.Proofs.Webhook.Book
import WalletNotify.Proofs.Webhook.Deliverable
import WalletNotify.Proofs.Webhook.Delivery
import WalletNotify.Proofs.Webhook.Dispatcher
import WalletNotify.Proofs.Webhook.Flight
import WalletNotify.Proofs.Webhook.Layout
import WalletNotify.Proofs.Webhook.Payload
import WalletNotify.Proofs.Webhook.Rebuilding
import WalletNotify.Proofs.Webhook.Registry
import WalletNotify.Proofs.Webhook.Schedule
import WalletNotify.Proofs.Webhook.Secret
import WalletNotify.Proofs.Webhook.Sharing
import WalletNotify.Proofs.Wire.Encode
import WalletNotify.Proofs.Wire.Field
import WalletNotify.Proofs.Wire.Length
import WalletNotify.Proofs.Wire.Merge
import WalletNotify.Proofs.Wire.Nested
import WalletNotify.Proofs.Wire.Payload
import WalletNotify.Proofs.Wire.Rearrange
import WalletNotify.Proofs.Wire.Scalar
import WalletNotify.Proofs.Wire.Truncation
import WalletNotify.Proofs.Wire.Varint
