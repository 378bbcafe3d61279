import WemoBridge.Library.Decimal
import WemoBridge.Library.Distinct
import WemoBridge.Library.ListSearch
import WemoBridge.Library.Machine
import WemoBridge.Library.Mutex
import WemoBridge.Library.Program
import WemoBridge.Library.Settle
import WemoBridge.Library.SlotTable
import WemoBridge.Library.Subscription
import WemoBridge.Library.Transaction
import WemoBridge.EndpointTable
import WemoBridge.EndpointRoom
import WemoBridge.Targets
import WemoBridge.Resolution
import WemoBridge.Callers
import WemoBridge.IpcTarget
import WemoBridge.AdapterThreads
import WemoBridge.EngineProtocol
import WemoBridge.CommandLine
import WemoBridge.Startup
import WemoBridge.DiscoveryOrder
import WemoBridge.Restart
import WemoBridge.Casts
import WemoBridge.Isolation
import WemoBridge.NodeLabel
import WemoBridge.LevelGate
import WemoBridge.LevelRange
import WemoBridge.Readings
import WemoBridge.Reference
import WemoBridge.Reports
import WemoBridge.Drift
import WemoBridge.AtRest
import WemoBridge.Dispatch
import WemoBridge.CommandOrder
import WemoBridge.EndpointRegistry
import WemoBridge.RegistrySafety
import WemoBridge.RegistryCalls
import WemoBridge.RegistryIds
import WemoBridge.EventFeed
import WemoBridge.Library.Outline
import WemoBridge.Delivery
import WemoBridge.WriteDelivery
import WemoBridge.RegistryNumbers
import WemoBridge.Processes
import WemoBridge.Library.Readable
import WemoBridge.Listing
