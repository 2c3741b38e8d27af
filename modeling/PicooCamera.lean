import PicooCamera.Library.TransitionSystem
import PicooCamera.Library.BigEndian
import PicooCamera.Library.OrderedMap
import PicooCamera.Library.BalancedPartition
import PicooCamera.Library.ByteField
import PicooCamera.Library.Interpolation
import PicooCamera.Library.Properties
import PicooCamera.Library.Least
import PicooCamera.Protocol.VideoPacket
import PicooCamera.Protocol.VideoFec
import PicooCamera.Protocol.FecGroups
import PicooCamera.Protocol.FecCodec
import PicooCamera.Protocol.ReedSolomon
import PicooCamera.Transport.VideoBatch
import PicooCamera.Sender.Packetizer
import PicooCamera.Sender.Shards
import PicooCamera.Packet.ReassemblyFec
import PicooCamera.Packet.ReassemblyMap
import PicooCamera.Packet.Bookkeeping
import PicooCamera.Packet.Tracking
import PicooCamera.Packet.LossFlag
import PicooCamera.Packet.SilentLoss
import PicooCamera.Packet.AtMostOnce
import PicooCamera.Packet.FecState
import PicooCamera.Packet.PartialUnit
import PicooCamera.Packet.RoundTrip
import PicooCamera.Library.Program
import PicooCamera.Library.History
import PicooCamera.Library.StableInsertion
import PicooCamera.Session.RuntimeState
import PicooCamera.Receiver.Reducer
import PicooCamera.Receiver.ReducerContract
import PicooCamera.Sender.Reducer
import PicooCamera.Sender.ReducerContract
import PicooCamera.Protocol.MediaFormat
import PicooCamera.Protocol.Control
import PicooCamera.Protocol.DatagramCodec
import PicooCamera.Transport.ControlFraming
import PicooCamera.Transport.ChunkedControl
import PicooCamera.Transport.ListenerWorker
import PicooCamera.Jitter.JitterBuffer
import PicooCamera.Jitter.BufferRuns
import PicooCamera.Receiver.MediaScheduler
import PicooCamera.Receiver.DecoderWorker
import PicooCamera.Receiver.WorkQueueRuns
import PicooCamera.Receiver.Recovery
import PicooCamera.Pairing.Handshake
import PicooCamera.Pairing.TrustedDeviceStore
import PicooCamera.Receiver.Session
import PicooCamera.Receiver.Lifecycle
import PicooCamera.Receiver.Media
import PicooCamera.Receiver.Pairing
import PicooCamera.Receiver.Control
import PicooCamera.Sender.EncoderTransaction
import PicooCamera.Receiver.Pump
import PicooCamera.Receiver.Owner
import PicooCamera.Receiver.JobCustody
import PicooCamera.Receiver.MediaPath
import PicooCamera.Receiver.RefreshCustody
import PicooCamera.Receiver.EpochAgreement
import PicooCamera.Receiver.QuietPrograms
import PicooCamera.Receiver.MediaSimulation
import PicooCamera.Receiver.ResultSimulation
import PicooCamera.Receiver.ControlSimulation
import PicooCamera.Receiver.OwnerSimulation
import PicooCamera.Receiver.PublishedPictures
import PicooCamera.Receiver.RefreshRuns
import PicooCamera.Library.Window
import PicooCamera.Bitstream.AccessUnit
import PicooCamera.Bitstream.Framing
import PicooCamera.Bitstream.Conversion
import PicooCamera.Bitstream.Configuration
import PicooCamera.Bitstream.Alignment
import PicooCamera.Library.ReplayGuard
import PicooCamera.Library.Streak
import PicooCamera.Packet.CacheBounds
import PicooCamera.Packet.Verdict
import PicooCamera.Packet.Boundary
import PicooCamera.Packet.LossCharges
import PicooCamera.Packet.LossAccounting
import PicooCamera.Pairing.TrustPersistence
import PicooCamera.RateControl.BitrateController
import PicooCamera.Receiver.ControlReplay
import PicooCamera.Receiver.TrustTransactions
import PicooCamera.Sender.Session
import PicooCamera.Sender.Lifecycle
import PicooCamera.Sender.Stream
import PicooCamera.Sender.Pairing
import PicooCamera.Sender.Control
import PicooCamera.Sender.PendingQueue
import PicooCamera.Sender.Media
import PicooCamera.Sender.Pump
import PicooCamera.Sender.SessionRuns
import PicooCamera.Sender.EncoderPath
import PicooCamera.Sender.EncoderSimulation
import PicooCamera.Sender.StreamSimulation
import PicooCamera.Sender.OperationSimulation
import PicooCamera.Sender.TransactionIntegrity
import PicooCamera.Sender.EpochAgreement
import PicooCamera.Sender.MediaOrder
import PicooCamera.Sender.SourceFormat
import PicooCamera.Session.NetworkHealth
import PicooCamera.Transport.Announcements
import PicooCamera.Jitter.QueueTimers
import PicooCamera.Receiver.PlayoutDrain
import PicooCamera.Recording.Bundle
import PicooCamera.Recording.BundleEffects
import PicooCamera.Recording.BundleDurability
import PicooCamera.Recording.EncodedWriter
import PicooCamera.Recording.EncodedHonesty
import PicooCamera.Recording.RenderedTimeline
import PicooCamera.Recording.RenderedRecorder
import PicooCamera.Recording.RenderedGrid
import PicooCamera.Recording.RenderedHoles
import PicooCamera.FrameHub.NativeFrame
import PicooCamera.FrameHub.FrameBus
import PicooCamera.FrameHub.OrderedDelivery
import PicooCamera.Library.RoundRobin
import PicooCamera.Library.BitReader
import PicooCamera.Library.EmulationPrevention
import PicooCamera.Sender.Schedule
import PicooCamera.Sender.PipelineRuns
import PicooCamera.Bitstream.PictureClassification
import PicooCamera.Bitstream.RecordGrammar
import PicooCamera.Bitstream.AvcFormat
import PicooCamera.Bitstream.SpsSyntax
import PicooCamera.Bitstream.AvcVui
import PicooCamera.Bitstream.AvcVuiPosition
import PicooCamera.Bitstream.AvcVuiRewrite
import PicooCamera.Bitstream.AvcVuiContract
import PicooCamera.Jitter.TargetDrain
import PicooCamera.Packet.ErrorAtomicity
import PicooCamera.SharedRing.Ring
import PicooCamera.SharedRing.Exclusion
import PicooCamera.SharedRing.Snapshots
import PicooCamera.SharedRing.Runs
import PicooCamera.SharedRing.SnapshotContract
import PicooCamera.SharedRing.ContentFence
import PicooCamera.SharedRing.FenceContract
import PicooCamera.SharedRing.Lookup
import PicooCamera.SharedRing.Freshness
import PicooCamera.SharedRing.FreshnessRuns
import PicooCamera.Session.ClockSync
import PicooCamera.Receiver.ClockSync
import PicooCamera.Pairing.TranscriptBinding
import PicooCamera.VirtualCamera.SampleClock
import PicooCamera.Recording.RenderedSampling
import PicooCamera.Recording.Reorder
import PicooCamera.SharedRing.LatestFrameQueue
import PicooCamera.FrameHub.NativeChannel
import PicooCamera.FrameHub.Nv12Orientation
import PicooCamera.Recording.IngressPipeline
import PicooCamera.Diagnostics.Redaction
import PicooCamera.Diagnostics.NonInterference
import PicooCamera.Session.CommitAdmission
import PicooCamera.Receiver.RuntimeContract
import PicooCamera.Receiver.CpuOutputContract
import PicooCamera.Protocol.NativeConfiguration
import PicooCamera.Sender.NativeBitstream
import PicooCamera.Sender.AdmittedBudget
import PicooCamera.Sender.PublishedConfig
import PicooCamera.Sender.BudgetRuns
import PicooCamera.Receiver.ConnectionPath
import PicooCamera.Receiver.ConnectionIsolation
import PicooCamera.Receiver.TrustRevocation
import PicooCamera.Discovery.Advertisement
import PicooCamera.Discovery.Browser
import PicooCamera.Discovery.Host
import PicooCamera.Receiver.OutputBackend
import PicooCamera.Pairing.AtomicReplace
