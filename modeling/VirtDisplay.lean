import VirtDisplay.Foundation.Transition
import VirtDisplay.Foundation.CriticalSection
import VirtDisplay.Foundation.Pages
import VirtDisplay.Foundation.Checked
import VirtDisplay.Contract
import VirtDisplay.Edid.Parser
import VirtDisplay.Edid.VideoBlocks
import VirtDisplay.Modes.ModeTable
import VirtDisplay.Modes.OfferedModes
import VirtDisplay.Adapter.Runs
import VirtDisplay.Adapter.FlushAccounting
import VirtDisplay.Adapter.BackPressure
import VirtDisplay.Adapter.FlushCount
import VirtDisplay.Adapter.FrontIdentity
import VirtDisplay.Adapter.PixelFormat
import VirtDisplay.Adapter.PresentStatus
import VirtDisplay.Queue.Submissions
import VirtDisplay.Interrupt.Completions
import VirtDisplay.Interrupt.Status
import VirtDisplay.Lifecycle.Teardown
import VirtDisplay.Adapter.Course
import VirtDisplay.Adapter.ResourceIds
import VirtDisplay.Adapter.ScanoutOrder
import VirtDisplay.Adapter.ResourceStream
import VirtDisplay.Adapter.BlackOut
import VirtDisplay.Adapter.BlobExtent
import VirtDisplay.Adapter.PageAccount
import VirtDisplay.Adapter.PageLocks
import VirtDisplay.Adapter.CursorOrder
import VirtDisplay.Ioctl.Completion
import VirtDisplay.Ioctl.Effects
import VirtDisplay.Monitor.Departures
import VirtDisplay.Monitor.CursorTracking
import VirtDisplay.Monitor.SwapChain
import VirtDisplay.Lifecycle.HardwareInit
import VirtDisplay.Modes.EdidQuery
import VirtDisplay.Modes.Rebuilds
import VirtDisplay.Adapter.LockOrder
import VirtDisplay.Adapter.Creations
import VirtDisplay.Adapter.SegmentParts
import VirtDisplay.Adapter.EntryBytes
import VirtDisplay.Ioctl.Overlap
import VirtDisplay.Adapter.SizeBounds
import VirtDisplay.Queue.PoolRuns
import VirtDisplay.Blit.CursorImage
import VirtDisplay.Edid.DetailedRates
import VirtDisplay.Edid.BitStrings
import VirtDisplay.Edid.DescriptorReads
import VirtDisplay.Lifecycle.PciResources
import VirtDisplay.Enabler.Topology
import VirtDisplay.Virtio.SplitQueue
import VirtDisplay.Virtio.SplitNotify
import VirtDisplay.Virtio.PackedUntrusted
import VirtDisplay.Virtio.PackedKicks
import VirtDisplay.Virtio.PackedInterrupts
import VirtDisplay.Foundation.Attempts
import VirtDisplay.Foundation.Trails
import VirtDisplay.Virtio.Capabilities
import VirtDisplay.Virtio.Transport
import VirtDisplay.Virtio.QueueSetup
import VirtDisplay.Virtio.TransportReach
import VirtDisplay.Virtio.Mapping
