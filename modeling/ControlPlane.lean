import ControlPlane.Address.Socket
import ControlPlane.Connection
import ControlPlane.Endpoint
import ControlPlane.Http.Response
import ControlPlane.Phase
import ControlPlane.Service.Operation
import ControlPlane.Pattern.Basic
import ControlPlane.Text.Utf8
import ControlPlane.WorkQueue.Operation
import ControlPlane.WorkQueue.Waiting
import ControlPlane.Worker
import ControlPlane.Toml.Document
import ControlPlane.Config.File
import ControlPlane.CommandLine
import ControlPlane.LogSwitch
import ControlPlane.Network
import ControlPlane.Publication
import ControlPlane.Reactor
import ControlPlane.Server
import ControlPlane.System
import ControlPlane.Main
import ControlPlane.Proofs.WorkQueue.History
import ControlPlane.Proofs.Server.Lifecycle
import ControlPlane.Proofs.WorkQueue.Wakeup
import ControlPlane.Proofs.Exchange.Spending
import ControlPlane.Proofs.Service.Delivery
import ControlPlane.Proofs.Service.Screening
import ControlPlane.Proofs.System.Answering
import ControlPlane.Proofs.AllowList.Peers
import ControlPlane.Proofs.Exchange.Turn
import ControlPlane.Proofs.Exchange.OneReply
import ControlPlane.Proofs.Service.Authority
import ControlPlane.Proofs.System.CutOff
import ControlPlane.Proofs.Publication.Sequential
import ControlPlane.Proofs.System.Backlog
import ControlPlane.Proofs.Exchange.Serving
import ControlPlane.Proofs.Worker.Isolation
import ControlPlane.Proofs.AllowList.Host
import ControlPlane.Proofs.Config.Entries
import ControlPlane.Proofs.Server.Exposure
import ControlPlane.Proofs.Subnet.Netmask
import ControlPlane.Proofs.AllowList.Own
import ControlPlane.Proofs.Subnet.Normal
import ControlPlane.Proofs.AllowList.Union
import ControlPlane.Proofs.Server.Agreement
import ControlPlane.Proofs.Route.Laws
import ControlPlane.Proofs.Exchange.Onlooker
import ControlPlane.Proofs.Service.Onlooker
import ControlPlane.Proofs.System.Onlooker
import ControlPlane.Proofs.System.Undisturbed
import ControlPlane.Proofs.Http.Fields
import ControlPlane.Proofs.Request.Arrival
import ControlPlane.Proofs.Http.Outgoing
import ControlPlane.Proofs.Config.Overrides
import ControlPlane.Proofs.Endpoint.Grammar
import ControlPlane.Proofs.Connection.Idle
import ControlPlane.Proofs.Service.Depth
import ControlPlane.Proofs.Reactor.Contract
import ControlPlane.Proofs.Endpoint.RoundTrip
import ControlPlane.Proofs.LogSwitch.History
import ControlPlane.Proofs.Request.Lookup
import ControlPlane.Proofs.Config.Precedence
