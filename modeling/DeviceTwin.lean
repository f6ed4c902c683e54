import DeviceTwin.Acknowledgement
import DeviceTwin.Acknowledgement.Frame
import DeviceTwin.Acknowledgement.Payload
import DeviceTwin.Acknowledgement.Single
import DeviceTwin.Acknowledgement.Tree
import DeviceTwin.Broker
import DeviceTwin.CommandLine
import DeviceTwin.CommandLine.Arguments
import DeviceTwin.CommandLine.Command
import DeviceTwin.Component
import DeviceTwin.Decimal.Binary64
import DeviceTwin.Decimal.Power
import DeviceTwin.Decimal.Scaled
import DeviceTwin.Decimal.Shortest
import DeviceTwin.Device
import DeviceTwin.Device.Pending
import DeviceTwin.Document
import DeviceTwin.Document.Cursor
import DeviceTwin.Document.Members
import DeviceTwin.Document.Payload
import DeviceTwin.Document.Version
import DeviceTwin.Error
import DeviceTwin.Interchange
import DeviceTwin.Json.Fault
import DeviceTwin.Json.Form
import DeviceTwin.Json.Number
import DeviceTwin.Json.Printer
import DeviceTwin.Json.Reader
import DeviceTwin.Json.Reader.Names
import DeviceTwin.Json.Reader.Number
import DeviceTwin.Json.Reader.Skip
import DeviceTwin.Json.Reader.Stop
import DeviceTwin.Json.Reader.Text
import DeviceTwin.Json.Value
import DeviceTwin.Main
import DeviceTwin.Proofs.Acknowledgement.Groups
import DeviceTwin.Proofs.Acknowledgement.Text
import DeviceTwin.Proofs.Attempt
import DeviceTwin.Proofs.Document.Revision
import DeviceTwin.Proofs.Document.Rounds
import DeviceTwin.Proofs.Document.Version
import DeviceTwin.Proofs.Document.Walk
import DeviceTwin.Proofs.Json.Distinct
import DeviceTwin.Proofs.Json.Scalars
import DeviceTwin.Proofs.Session.Documents
import DeviceTwin.Proofs.Session.History
import DeviceTwin.Proofs.Session.Publications
import DeviceTwin.Proofs.Session.Runs
import DeviceTwin.Proofs.Session.Steps
import DeviceTwin.Proofs.Store.Accept
import DeviceTwin.Proofs.Store.History
import DeviceTwin.Proofs.TokenStream.Value
import DeviceTwin.Proofs.Topic.Numbered
import DeviceTwin.Property
import DeviceTwin.Response
import DeviceTwin.Session
import DeviceTwin.Settings
import DeviceTwin.Store
import DeviceTwin.Text.Cut
import DeviceTwin.Text.Escaped
import DeviceTwin.Text.Integer
import DeviceTwin.Text.Invisible
import DeviceTwin.Text.Start
import DeviceTwin.Text.Utf8
import DeviceTwin.Token
import DeviceTwin.TokenStream
import DeviceTwin.Topic
import DeviceTwin.Topic.Classify
import DeviceTwin.Transport
import DeviceTwin.Transport.Loopback
import DeviceTwin.Uri
import DeviceTwin.Uri.Domain
import DeviceTwin.Uri.Domain.Composite
import DeviceTwin.Uri.Domain.Direction
import DeviceTwin.Uri.Domain.Joining
import DeviceTwin.Uri.Domain.Mapping
import DeviceTwin.Uri.Domain.Mark
import DeviceTwin.Uri.Domain.Punycode
import DeviceTwin.Uri.Domain.Table
import DeviceTwin.Uri.Host
import DeviceTwin.Uri.Ipv6
import DeviceTwin.Uri.Path
import DeviceTwin.Uri.Percent
import DeviceTwin.Writer
import DeviceTwin.Proofs.Session.Pending
import DeviceTwin.Proofs.Session.Confirmations
import DeviceTwin.Proofs.Document.Forward
import DeviceTwin.Proofs.Document.Calls
import DeviceTwin.Proofs.Acknowledgement.Write
import DeviceTwin.Proofs.Acknowledgement.Draft
import DeviceTwin.Proofs.Acknowledgement.Steps
import DeviceTwin.Proofs.Json.RoundTrip
import DeviceTwin.Proofs.Acknowledgement.ReadBack
import DeviceTwin.Proofs.Topic.Query
import DeviceTwin.Proofs.Topic.RoundTrip
import DeviceTwin.Proofs.Writer.Calls
import DeviceTwin.Proofs.Writer.Page
import DeviceTwin.Proofs.Json.Commas
import DeviceTwin.Proofs.Writer.Written
import DeviceTwin.Proofs.Writer.ReadBack
import DeviceTwin.Proofs.Session.Requests
import DeviceTwin.Proofs.Session.Answers
import DeviceTwin.Proofs.Acknowledgement.Region
import DeviceTwin.Proofs.Session.Regions
import DeviceTwin.Proofs.Session.Polling
import DeviceTwin.Proofs.Session.Redelivery
import DeviceTwin.Proofs.Document.Lookup
import DeviceTwin.Proofs.Document.Passing
import DeviceTwin.Proofs.Document.AnyTokens
import DeviceTwin.Proofs.TokenStream.Positions
import DeviceTwin.Proofs.Document.Overrun
import DeviceTwin.Proofs.Writer.InPlace
import DeviceTwin.Proofs.Acknowledgement.AllOrNone
import DeviceTwin.Proofs.Writer.Row
import DeviceTwin.Proofs.Acknowledgement.Shortage
import DeviceTwin.Proofs.Acknowledgement.OpenBlock
import DeviceTwin.Proofs.Writer.Rollback
import DeviceTwin.Proofs.Text.Digits
import DeviceTwin.Proofs.Topic.Grammar
import DeviceTwin.Proofs.Topic.Recognition
import DeviceTwin.Proofs.Topic.Correlation
import DeviceTwin.Proofs.Json.Merged
import DeviceTwin.Proofs.Topic.Arrangement
import DeviceTwin.Proofs.TokenStream.Grammar
import DeviceTwin.Proofs.Acknowledgement.Growth
import DeviceTwin.Proofs.Session.TopicRoom
import DeviceTwin.Proofs.Topic.Foreign
import DeviceTwin.Proofs.TokenStream.Places
import DeviceTwin.Proofs.Document.Repeated
