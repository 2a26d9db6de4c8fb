import TrafficShaping.Bytes
import TrafficShaping.Class
import TrafficShaping.Client.Call
import TrafficShaping.Client.Dump
import TrafficShaping.Client.LinkLookup
import TrafficShaping.Client.Mutation
import TrafficShaping.Clock
import TrafficShaping.Error
import TrafficShaping.Error.Errno
import TrafficShaping.Handle
import TrafficShaping.Json
import TrafficShaping.Json.Objects
import TrafficShaping.Json.Standard
import TrafficShaping.Kernel.Classes
import TrafficShaping.Kernel.Endpoint
import TrafficShaping.Kernel.Handler
import TrafficShaping.Kernel.Qdiscs
import TrafficShaping.Kernel.Refusal
import TrafficShaping.Kernel.Report
import TrafficShaping.Kernel.Request
import TrafficShaping.Kernel.State
import TrafficShaping.Kind.Hfsc
import TrafficShaping.Kind.Htb
import TrafficShaping.Kind.Netem
import TrafficShaping.Kind.PfifoFast
import TrafficShaping.Number.Binary64
import TrafficShaping.Outcome
import TrafficShaping.Probability
import TrafficShaping.Proofs.Acknowledgement
import TrafficShaping.Proofs.Attribute.Extension
import TrafficShaping.Proofs.Attribute.Filling
import TrafficShaping.Proofs.Attribute.Grammar
import TrafficShaping.Proofs.Attribute.Leaves
import TrafficShaping.Proofs.Attribute.Limit
import TrafficShaping.Proofs.Attribute.Order
import TrafficShaping.Proofs.Attribute.Reading
import TrafficShaping.Proofs.Attribute.RoundTrip
import TrafficShaping.Proofs.Attribute.Writing
import TrafficShaping.Proofs.Change
import TrafficShaping.Proofs.ClassOptions
import TrafficShaping.Proofs.Clock
import TrafficShaping.Proofs.Deletion
import TrafficShaping.Proofs.Dump
import TrafficShaping.Proofs.Dump.Locality
import TrafficShaping.Proofs.Dump.Outcome
import TrafficShaping.Proofs.Error
import TrafficShaping.Proofs.Exchange
import TrafficShaping.Proofs.Extension
import TrafficShaping.Proofs.Handle
import TrafficShaping.Proofs.Handle.Grammar
import TrafficShaping.Proofs.Handle.Text
import TrafficShaping.Proofs.Json
import TrafficShaping.Proofs.Json.Objects
import TrafficShaping.Proofs.Json.Standard
import TrafficShaping.Proofs.Kernel.Accepted
import TrafficShaping.Proofs.Kernel.Accepting
import TrafficShaping.Proofs.Kernel.Cascade
import TrafficShaping.Proofs.Kernel.Locality
import TrafficShaping.Proofs.Kernel.Refused
import TrafficShaping.Proofs.Kernel.Removal
import TrafficShaping.Proofs.Kernel.Reports
import TrafficShaping.Proofs.Kernel.Tables
import TrafficShaping.Proofs.Kernel.Tree
import TrafficShaping.Proofs.Kernel.TreeSteps
import TrafficShaping.Proofs.Kind.Hfsc
import TrafficShaping.Proofs.Kind.Htb
import TrafficShaping.Proofs.Kind.Netem
import TrafficShaping.Proofs.Kind.Netem.Canonical
import TrafficShaping.Proofs.Kind.Netem.Resend
import TrafficShaping.Proofs.Kind.Rate
import TrafficShaping.Proofs.Layout
import TrafficShaping.Proofs.Layout.Records
import TrafficShaping.Proofs.Layout.Structure
import TrafficShaping.Proofs.LinkLookup
import TrafficShaping.Proofs.LinkLookup.Kernel
import TrafficShaping.Proofs.Message.Building
import TrafficShaping.Proofs.Message.ExtendedText
import TrafficShaping.Proofs.Message.Framing
import TrafficShaping.Proofs.Number.Binary64
import TrafficShaping.Proofs.QdiscOptions
import TrafficShaping.Proofs.RateTable
import TrafficShaping.Proofs.ReadBack
import TrafficShaping.Proofs.ReadBack.Class
import TrafficShaping.Proofs.Received
import TrafficShaping.Proofs.Replacement
import TrafficShaping.Proofs.Replies
import TrafficShaping.Proofs.Report
import TrafficShaping.Proofs.Request
import TrafficShaping.Proofs.Session
import TrafficShaping.Proofs.Session.Automatic
import TrafficShaping.Proofs.Session.Defaults
import TrafficShaping.Proofs.Session.Interleaving
import TrafficShaping.Proofs.Session.Places
import TrafficShaping.Proofs.Session.Root
import TrafficShaping.Proofs.Session.WellFormed
import TrafficShaping.Proofs.Slices
import TrafficShaping.Proofs.Statistics.Blocks
import TrafficShaping.Proofs.Statistics.Deltas
import TrafficShaping.Proofs.Statistics.Forms
import TrafficShaping.Proofs.Statistics.Order
import TrafficShaping.Proofs.Text.Numeral
import TrafficShaping.Proofs.Text.Utf8
import TrafficShaping.Proofs.Undo
import TrafficShaping.Proofs.WireFault
import TrafficShaping.Qdisc
import TrafficShaping.RateTable
import TrafficShaping.Statistics
import TrafficShaping.Text.Blank
import TrafficShaping.Text.Hexadecimal
import TrafficShaping.Text.Utf8
import TrafficShaping.Wire.Attribute
import TrafficShaping.Wire.Layout
import TrafficShaping.Wire.Layout.Lawful
import TrafficShaping.Wire.Message
import TrafficShaping.Wire.Records
import TrafficShaping.Wire.Request
