import ClusterLink.Main
import ClusterLink.Proofs.Envelope.RoundTrip
import ClusterLink.Proofs.Gate.ReleaseOrder
import ClusterLink.Proofs.Command.Routing
import ClusterLink.Proofs.Connection.CleanClose
import ClusterLink.Proofs.Connection.Delivery
import ClusterLink.Proofs.Connection.Protocol
import ClusterLink.Proofs.Session.HeadlessTick
import ClusterLink.Proofs.Session.Overtaking
import ClusterLink.Proofs.Frame.Arrival
import ClusterLink.Proofs.Outbox.Delivery
import ClusterLink.Proofs.Session.Issuing
import ClusterLink.Proofs.Session.Independence
import ClusterLink.Proofs.Roster.Calls
import ClusterLink.Proofs.Roster.Handover
import ClusterLink.Proofs.Session.Draining
import ClusterLink.Proofs.Session.HeadlessPolls
import ClusterLink.Proofs.Session.Closing
import ClusterLink.Proofs.Frame.Chunking
import ClusterLink.Proofs.Envelope.TagTable
import ClusterLink.Proofs.Cbor.Places
import ClusterLink.Proofs.Envelope.Reencoding
import ClusterLink.Proofs.Session.Sending
import ClusterLink.Poller.Run
import ClusterLink.Proofs.Poller.Growth
import ClusterLink.Proofs.Command.Drawing
import ClusterLink.Proofs.Cbor.Delimiting
import ClusterLink.Proofs.Envelope.Delimiting
import ClusterLink.Proofs.Session.ServerBrowser
import ClusterLink.Proofs.Document.Quoting
import ClusterLink.Proofs.Document.Words
import ClusterLink.Proofs.Document.Rendering
import ClusterLink.Proofs.Document.Tables
import ClusterLink.Proofs.Settings.Saving
import ClusterLink.Proofs.Settings.TickInterval
