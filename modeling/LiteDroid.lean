import LiteDroid.ByteRange
import LiteDroid.LittleEndian
import LiteDroid.CoreResults
import LiteDroid.MemoryRegion
import LiteDroid.StorageImage
import LiteDroid.VmmBlockDevice
import LiteDroid.VmmQueueLayout
import LiteDroid.VmmBlockRequest
import LiteDroid.VmmDiskStore
import LiteDroid.StepRun
import LiteDroid.VmmBlockQueue
import LiteDroid.VmmRingAgreement
import LiteDroid.VmmBlockRuns
import LiteDroid.VmmRequestEffects
import LiteDroid.EffectRun
import LiteDroid.CoreDeviceConfig
import LiteDroid.KvmHost
import LiteDroid.VmmMachine
import LiteDroid.VmmAddressMap
import LiteDroid.VmmPageTables
import LiteDroid.VmmBootImages
import LiteDroid.DaemonDispatch
import LiteDroid.DaemonAdbGate
import LiteDroid.NetworkNat
import LiteDroid.NetworkNatRuns
import LiteDroid.AdbMessages
import LiteDroid.FrameStream
import LiteDroid.AdbConnection
import LiteDroid.IpcFrames
import LiteDroid.DaemonCoherence
import LiteDroid.DaemonWipe
import LiteDroid.DaemonSystem
import LiteDroid.DaemonShutdown
import LiteDroid.DaemonAvdNames
import LiteDroid.ConfigPaths
import LiteDroid.IpcCalls
import LiteDroid.VmmRequestFrame
import LiteDroid.VmmShortReads
import LiteDroid.VmmDiskCapacity
import LiteDroid.VmmQueueTrace
import LiteDroid.ConfigFile
import LiteDroid.VmmRunLoop
import LiteDroid.ConfigProfiles
import LiteDroid.CliProfiles
import LiteDroid.GuiProfiles
import LiteDroid.ProfileLoads
import LiteDroid.ConfigImages
import LiteDroid.GraphicsFramebuffer
import LiteDroid.GraphicsBlits
import LiteDroid.VmmSectorAliasing
import LiteDroid.VmmConfigReads
import LiteDroid.VmmDescriptorBounds
import LiteDroid.VmmRingSlots
import LiteDroid.VmmDeviceReset
import LiteDroid.VmmKernelLoads
import LiteDroid.VmmZeroPage
import LiteDroid.VmmBootModes
import LiteDroid.GraphicsRoundTrip
import LiteDroid.GraphicsPixels
import LiteDroid.DaemonAvdSettings
import LiteDroid.ProfileNumbers
import LiteDroid.AdbSessions
import LiteDroid.NetworkTap
import LiteDroid.DevicesBus
import LiteDroid.NetworkDevice
import LiteDroid.NetworkRoutes
import LiteDroid.MemoryWrites
import LiteDroid.BoundedQueue
import LiteDroid.InputEvents
import LiteDroid.DevicesKinds
import LiteDroid.DevicesRuns
import LiteDroid.DevicesStates
import LiteDroid.AdbServer
import LiteDroid.AdbStreams
import LiteDroid.KvmCpuid
import LiteDroid.VmmSegments
import LiteDroid.VmmEntry
import LiteDroid.VmmGuestRuns
import LiteDroid.GuiPanel
import LiteDroid.Linearization
import LiteDroid.IpcClients
import LiteDroid.CliCommands
import LiteDroid.ChangeHistory
import LiteDroid.ProfileStore
import LiteDroid.StorageSessions
import LiteDroid.DaemonProcesses
import LiteDroid.KvmProbes
