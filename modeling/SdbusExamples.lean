import SdbusExamples.DeferredRegistration
import SdbusExamples.LoopWakeup
import SdbusExamples.LoopStop
import SdbusExamples.LoopExitCode
import SdbusExamples.LoopHangup
import SdbusExamples.LoopLifetime
import SdbusExamples.DualSenseReader
import SdbusExamples.DualSenseDivision
import SdbusExamples.DualSenseTransports
import SdbusExamples.BluezDevice
import SdbusExamples.Hidraw
import SdbusExamples.Controllers
import SdbusExamples.ReaderRetirement
import SdbusExamples.ReaderAttachment
import SdbusExamples.LoopDispatch
import SdbusExamples.PowerClients
import SdbusExamples.DeviceProperties
import SdbusExamples.MessageQueues
import SdbusExamples.DeviceCache
import SdbusExamples.BluezClient
import SdbusExamples.ClientStores
import SdbusExamples.ExportedObjects
import SdbusExamples.ClientConvergence
import SdbusExamples.ManagerProxies
import SdbusExamples.DiscoveryFailure
import SdbusExamples.UDisks2Manager
import SdbusExamples.UDisks2Convergence
import SdbusExamples.RemovableMonitor
import SdbusExamples.RemovableReports
import SdbusExamples.RecheckLatch
import SdbusExamples.RemovableRuns
import SdbusExamples.RemovableReadiness
import SdbusExamples.DualSenseFractions
import SdbusExamples.FdOwnership
import SdbusExamples.PropertyRendering
import SdbusExamples.PropertyLines
import SdbusExamples.HoripadReader
import SdbusExamples.XboxReports
import SdbusExamples.ConnmanDeadlock
import SdbusExamples.UPowerConvergence
import SdbusExamples.HidrawTable
import SdbusExamples.LogPaths
import SdbusExamples.SysfsPaths
import SdbusExamples.ActiveUnits
import SdbusExamples.DeviceAdmission
import SdbusExamples.HexdumpDecoding
import SdbusExamples.JsonIntegers
import SdbusExamples.PropertyRuns
import SdbusExamples.SizeFormat
import SdbusExamples.Login1Manager
import SdbusExamples.SignalSource
import SdbusExamples.ConnmanConvergence
import SdbusExamples.ControllerInvariants
import SdbusExamples.ConnmanMain
import SdbusExamples.ReaderDescriptors
import SdbusExamples.GattProperties
import SdbusExamples.XboxBattery
import SdbusExamples.AdapterDiscovery
import SdbusExamples.DeviceInformation
import SdbusExamples.Hostname1Client
