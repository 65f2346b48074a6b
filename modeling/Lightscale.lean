import Lightscale.Foundation.Table
import Lightscale.Foundation.Execution
import Lightscale.Foundation.Tasks
import Lightscale.Foundation.IpNet
import Lightscale.Foundation.Text
import Lightscale.Foundation.TextForms
import Lightscale.Foundation.AddressText
import Lightscale.Foundation.Json
import Lightscale.Foundation.JsonText
import Lightscale.Foundation.Serde
import Lightscale.Foundation.Lines
import Lightscale.Foundation.Documents
import Lightscale.Foundation.Base64
import Lightscale.ControlPlane.Model
import Lightscale.ControlPlane.Overlay
import Lightscale.ControlPlane.Netmap
import Lightscale.ControlPlane.Store
import Lightscale.ControlPlane.Api
import Lightscale.ControlPlane.Server
import Lightscale.ControlPlane.Transition
import Lightscale.ControlPlane.Answers
import Lightscale.ControlPlane.StepTransition
import Lightscale.ControlPlane.NodeChange
import Lightscale.ControlPlane.Addresses
import Lightscale.ControlPlane.Capacity
import Lightscale.ControlPlane.Revocation
import Lightscale.ControlPlane.KeyHistory
import Lightscale.ControlPlane.NodeNames
import Lightscale.ControlPlane.EnrollmentTokens
import Lightscale.ControlPlane.Approval
import Lightscale.ControlPlane.Integrity
import Lightscale.ControlPlane.Authority
import Lightscale.ControlPlane.NetmapIsolation
import Lightscale.ControlPlane.Edit
import Lightscale.ControlPlane.AuditLog
import Lightscale.ControlPlane.AllOrNothing
import Lightscale.ControlPlane.Lifetimes
import Lightscale.ControlPlane.KeyRecords
import Lightscale.ControlPlane.Closures
import Lightscale.ControlPlane.Ranges
import Lightscale.ControlPlane.MapOrder
import Lightscale.ControlPlane.Tenants
import Lightscale.ControlPlane.Noninterference
import Lightscale.ControlPlane.Interleaving
import Lightscale.ControlPlane.LongPoll
import Lightscale.Storage.StateJson
import Lightscale.Storage.StateFile
import Lightscale.Storage.ConcurrentWrites
import Lightscale.Storage.Backends
import Lightscale.Storage.Database
import Lightscale.Storage.Cluster
import Lightscale.Storage.Restarts
import Lightscale.Mesh.Caches
import Lightscale.Mesh.CacheHistory
import Lightscale.Mesh.Relay
import Lightscale.Mesh.Message
import Lightscale.Mesh.Flooding
import Lightscale.Mesh.RouteHints
import Lightscale.Mesh.Lineage
import Lightscale.Mesh.SeenCache
import Lightscale.Mesh.RouteCache
import Lightscale.Mesh.AtMostOnce
import Lightscale.Mesh.Connections
import Lightscale.Mesh.Wire
import Lightscale.Relay.Packet
import Lightscale.Relay.Codec
import Lightscale.Relay.Framing
import Lightscale.Relay.Stream
import Lightscale.Relay.StreamRegistry
import Lightscale.Relay.Udp
import Lightscale.Relay.UdpPeers
import Lightscale.Relay.Fleet
import Lightscale.Relay.Authenticity
import Lightscale.Relay.Dispatch
import Lightscale.Relay.Parking
import Lightscale.Dns.Snapshot
import Lightscale.Dns.LiveNodes
import Lightscale.Dns.NameOwnership
import Lightscale.Dns.Response
import Lightscale.Dns.Servers
