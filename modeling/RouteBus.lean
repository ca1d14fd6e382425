import RouteBus.Files.Tree
import RouteBus.Main
import RouteBus.Proofs.Template.Backtracking
import RouteBus.Rehearsal.Application
import RouteBus.Rehearsal.Tryout
import RouteBus.Proofs.Template.Extraction
import RouteBus.Proofs.Bus.Dispatch
import RouteBus.Proofs.Task.Duties
import RouteBus.Proofs.Bus.Deals
import RouteBus.Proofs.Bus.Connections
import RouteBus.Proofs.Bus.SingleFlight
import RouteBus.Proofs.Bus.Custody
import RouteBus.Proofs.Bus.Overlap
import RouteBus.Proofs.Bus.Routing
import RouteBus.Proofs.Navigation.Switching
import RouteBus.Proofs.Bus.Closing
import RouteBus.Proofs.Bus.Sparing
import RouteBus.Proofs.Bus.Coverage
import RouteBus.Proofs.Hub.Requests
import RouteBus.Proofs.Hub.Failures
import RouteBus.Proofs.Navigation.Fanout
import RouteBus.Proofs.Task.Traces
import RouteBus.Proofs.Navigation.Arrivals
import RouteBus.Proofs.Rehearsal.Agreement
import RouteBus.Proofs.Bus.Parcels
import RouteBus.Proofs.Bus.Seats
import RouteBus.Proofs.Bus.Sequences
import RouteBus.Proofs.Hub.Carriers
import RouteBus.Proofs.Bus.Mailboxes
import RouteBus.Proofs.Task.Labels
import RouteBus.Proofs.Config.Validation
import RouteBus.Proofs.Task.Likeness
import RouteBus.Proofs.Config.Plans
import RouteBus.Proofs.Bus.Inbound
import RouteBus.Proofs.Bus.Stragglers
import RouteBus.Proofs.Template.Grammar
import RouteBus.Proofs.Bus.Connected
import RouteBus.Proofs.Text.ByteOrder
import RouteBus.Proofs.Bus.Sweeping
import RouteBus.Proofs.Navigation.Going
import RouteBus.Proofs.Task.Turns
import RouteBus.Proofs.Chain.Merging
import RouteBus.Proofs.Sequence.Pulling
import RouteBus.Proofs.Template.Remainder
import RouteBus.Proofs.Json.Members
import RouteBus.Proofs.Message.Encoding
import RouteBus.Proofs.Navigation.Itinerary
import RouteBus.Proofs.Navigation.Draining
import RouteBus.Proofs.Files.Confinement
import RouteBus.Proofs.Template.Captures
import RouteBus.Proofs.Config.Priority
