import ClientSdk.Lib.Machine
import ClientSdk.Lib.Body
import ClientSdk.Common.Status
import ClientSdk.Common.Stoi
import ClientSdk.Client.Connection
import ClientSdk.Common.Message
import ClientSdk.Client.Reconnect
import ClientSdk.Callback.Lifecycle
import ClientSdk.Callback.Endpoint
import ClientSdk.Callback.Delivery
import ClientSdk.Client.Calls
import ClientSdk.Lib.Pool
import ClientSdk.Client.Async
import ClientSdk.Client.Race
import ClientSdk.Callback.Deadlock
import ClientSdk.Modules.Exchange
import ClientSdk.Modules.Call
import ClientSdk.Modules.Control
import ClientSdk.Modules.Navigation
import ClientSdk.Client.Coherence
import ClientSdk.Common.Decimal
import ClientSdk.Modules.Report
import ClientSdk.Modules.NavigationReport
import ClientSdk.Modules.Api
import ClientSdk.Modules.Request
import ClientSdk.Modules.Consistency
import ClientSdk.Modules.Fidelity
import ClientSdk.Modules.Output
import ClientSdk.Modules.Streams
import ClientSdk.Common.Chain
import ClientSdk.Client.Deadline
import ClientSdk.Client.Limits
import ClientSdk.Client.Waiting
import ClientSdk.Callback.Failure
import ClientSdk.Client.Ownership
import ClientSdk.Lib.Block
import ClientSdk.Lib.Remote
import ClientSdk.Modules.Discipline
import ClientSdk.Modules.Remote
import ClientSdk.Modules.Routing
import ClientSdk.Modules.Concurrent
import ClientSdk.Callback.Lifetime
import ClientSdk.Callback.Thread
import ClientSdk.Callback.Network
import ClientSdk.Callback.Progress
import ClientSdk.Client.Patience
import ClientSdk.Modules.Provenance
import ClientSdk.Client.Duration
import ClientSdk.Modules.Duration
import ClientSdk.Callback.Mailboxes
