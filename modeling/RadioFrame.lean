import RadioFrame.Bytes
import RadioFrame.Catalogue.Adapter
import RadioFrame.Catalogue.Bluetooth
import RadioFrame.Catalogue.Fields
import RadioFrame.Catalogue.Physical
import RadioFrame.Catalogue.ShockBurst
import RadioFrame.Catalogue.Vocabularies
import RadioFrame.Catalogue.Zigbee
import RadioFrame.Decimal.Shortest
import RadioFrame.Domain
import RadioFrame.Envelope
import RadioFrame.Frame
import RadioFrame.Inspect.CommandLine
import RadioFrame.Inspect.Input
import RadioFrame.Inspect.Program
import RadioFrame.Inspect.Report
import RadioFrame.Inspect.Settings
import RadioFrame.Json.Fault
import RadioFrame.Json.Numeral
import RadioFrame.Json.Reader
import RadioFrame.Json.Token
import RadioFrame.Json.Value
import RadioFrame.Main
import RadioFrame.Message
import RadioFrame.Message.Adapter
import RadioFrame.Message.Bluetooth
import RadioFrame.Message.Physical
import RadioFrame.Message.ShockBurst
import RadioFrame.Message.Text
import RadioFrame.Message.Zigbee
import RadioFrame.Proofs.Envelope
import RadioFrame.Proofs.Frame
import RadioFrame.Proofs.Frame.Body
import RadioFrame.Proofs.Frame.Interleaving
import RadioFrame.Proofs.Frame.NumberLists
import RadioFrame.Proofs.Frame.Outline
import RadioFrame.Proofs.Frame.Prefix
import RadioFrame.Proofs.Frame.Slices
import RadioFrame.Proofs.Frame.Unknown
import RadioFrame.Proofs.Inspect.Input
import RadioFrame.Proofs.Inspect.Report
import RadioFrame.Proofs.Json.Document
import RadioFrame.Proofs.Json.Laying
import RadioFrame.Proofs.Json.Reading
import RadioFrame.Proofs.Json.Refusal
import RadioFrame.Proofs.Json.Scan
import RadioFrame.Proofs.Json.Spelling
import RadioFrame.Proofs.Message.Commands
import RadioFrame.Proofs.Message.Layout
import RadioFrame.Proofs.Message.Limits
import RadioFrame.Proofs.Message.Overlay
import RadioFrame.Proofs.Message.Presence
import RadioFrame.Proofs.Message.Protocol
import RadioFrame.Proofs.Message.RoundTrip
import RadioFrame.Proofs.Message.Shared
import RadioFrame.Proofs.Message.Spelling
import RadioFrame.Proofs.Message.Text
import RadioFrame.Proofs.Message.Typed
import RadioFrame.Proofs.Message.Validation
import RadioFrame.Proofs.Outcome
import RadioFrame.Proofs.Place
import RadioFrame.Proofs.Row
import RadioFrame.Proofs.Schema.Checking
import RadioFrame.Proofs.Schema.Drafts
import RadioFrame.Proofs.Schema.Gathering
import RadioFrame.Proofs.Schema.Layers
import RadioFrame.Proofs.Schema.Order
import RadioFrame.Proofs.Schema.Overlay
import RadioFrame.Proofs.Schema.Presence
import RadioFrame.Proofs.Schema.Reading
import RadioFrame.Proofs.Schema.Records
import RadioFrame.Proofs.Schema.Requirements
import RadioFrame.Proofs.Schema.Spelling
import RadioFrame.Proofs.Schema.Steady
import RadioFrame.Proofs.Schema.Text
import RadioFrame.Proofs.Text.Address
import RadioFrame.Proofs.Text.Hex
import RadioFrame.Proofs.Value.Bits
import RadioFrame.Proofs.Value.Buffer
import RadioFrame.Proofs.Value.Capability
import RadioFrame.Proofs.Value.ChannelMap
import RadioFrame.Proofs.Wire.Grammar
import RadioFrame.Proofs.Wire.Nesting
import RadioFrame.Proofs.Wire.Pieces
import RadioFrame.Proofs.Wire.Record
import RadioFrame.Proofs.Wire.Scalar
import RadioFrame.Proofs.Wire.Slices
import RadioFrame.Proofs.Wire.Steady
import RadioFrame.Proofs.Wire.Uniform
import RadioFrame.Proofs.Wire.Varint
import RadioFrame.Row
import RadioFrame.Schema.BufferText
import RadioFrame.Schema.Datum
import RadioFrame.Schema.Field
import RadioFrame.Schema.Shape
import RadioFrame.Schema.Submessage
import RadioFrame.Schema.Text
import RadioFrame.Schema.Vocabulary
import RadioFrame.Text.Hex
import RadioFrame.Text.Printable
import RadioFrame.Text.Quoted
import RadioFrame.Toml.Document
import RadioFrame.Toml.Moment
import RadioFrame.Toml.Numeral
import RadioFrame.Toml.Text
import RadioFrame.Value.Address
import RadioFrame.Value.Capability
import RadioFrame.Value.ChannelMap
import RadioFrame.Value.Payload
import RadioFrame.Wire.Fault
import RadioFrame.Wire.Key
import RadioFrame.Wire.Message
import RadioFrame.Wire.Scalar
import RadioFrame.Wire.Skip
import RadioFrame.Wire.Varint
