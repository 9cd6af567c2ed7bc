import Esp32Eye.Lib.Run
import Esp32Eye.Lib.Compose
import Esp32Eye.Lib.Simulation
import Esp32Eye.Lib.Subscription
import Esp32Eye.Lib.EventGroup
import Esp32Eye.Lib.ByteOrder
import Esp32Eye.Lib.SlotTable
import Esp32Eye.Lib.Queue
import Esp32Eye.Lib.Ring
import Esp32Eye.Lib.Pool
import Esp32Eye.Lib.Heap
import Esp32Eye.Lib.Relay
import Esp32Eye.Lib.Mutex
import Esp32Eye.Lib.Reader
import Esp32Eye.Lib.RetryCounter
import Esp32Eye.Lib.Stopwatch
import Esp32Eye.Server
import Esp32Eye.Network
import Esp32Eye.Pipeline
import Esp32Eye.System
import Esp32Eye.Schedule
import Esp32Eye.Batch
import Esp32Eye.Wifi
import Esp32Eye.Startup
import Esp32Eye.Dma
import Esp32Eye.Driver
import Esp32Eye.DriverSchedule
import Esp32Eye.Sensor
import Esp32Eye.EspCamera
import Esp32Eye.Camera
import Esp32Eye.Device
import Esp32Eye.DeviceSchedule
import Esp32Eye.Proof.Startup
import Esp32Eye.Proof.NetworkRules
import Esp32Eye.Proof.Components
import Esp32Eye.Proof.Table
import Esp32Eye.Proof.TableInvariant
import Esp32Eye.Proof.Pending
import Esp32Eye.Proof.Interest
import Esp32Eye.Proof.Snapshot
import Esp32Eye.Proof.Ownership
import Esp32Eye.Proof.Coverage
import Esp32Eye.Proof.Availability
import Esp32Eye.Proof.Descriptors
import Esp32Eye.Proof.PipelineRules
import Esp32Eye.Proof.Frames
import Esp32Eye.Proof.FrameOwnership
import Esp32Eye.Proof.SlotView
import Esp32Eye.Proof.Framing
import Esp32Eye.Proof.Lockstep
import Esp32Eye.Proof.Leftover
import Esp32Eye.Proof.Mutex
import Esp32Eye.Proof.Deadlock
import Esp32Eye.Proof.Scan
import Esp32Eye.Proof.Batch
import Esp32Eye.Proof.HandleRequests
import Esp32Eye.Proof.Registration
import Esp32Eye.Proof.Recipients
import Esp32Eye.Proof.Service
import Esp32Eye.Proof.Wire
import Esp32Eye.Proof.Timestamps
import Esp32Eye.Proof.Wifi
import Esp32Eye.Proof.Filters
import Esp32Eye.Proof.DmaLayout
import Esp32Eye.Proof.DriverRules
import Esp32Eye.Proof.Slots
import Esp32Eye.Proof.Markers
import Esp32Eye.Proof.Lending
import Esp32Eye.Proof.Pacing
import Esp32Eye.Proof.Images
import Esp32Eye.Proof.Delivery
import Esp32Eye.Proof.FlowControl
import Esp32Eye.Proof.Discards
import Esp32Eye.Proof.TakeTimeout
import Esp32Eye.Proof.EspCamera
import Esp32Eye.Proof.Camera
import Esp32Eye.Proof.DescriptorRing
import Esp32Eye.Proof.Device
import Esp32Eye.Proof.EndToEnd
