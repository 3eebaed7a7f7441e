import Audiophore.ExtendedFloat
import Audiophore.RustExec
import Audiophore.ByteFields
import Audiophore.ListChunks
import Audiophore.TextRecords
import Audiophore.FixedPoint
import Audiophore.LastWriter
import Audiophore.StepRuns
import Audiophore.Components
import Audiophore.SnapshotRegister
import Audiophore.RoundCounter
import Audiophore.Screens
import Audiophore.Core
import Audiophore.FrameBuilder
import Audiophore.OscIngress
import Audiophore.OscRegisters
import Audiophore.IngressHistory
import Audiophore.FrameClock
import Audiophore.BuilderHistory
import Audiophore.SacnPacket
import Audiophore.SacnReceiver
import Audiophore.Utf8Cuts
import Audiophore.SourceName
import Audiophore.MappingM1
import Audiophore.ZoneCoverage
import Audiophore.ChannelRange
import Audiophore.AdapterCore
import Audiophore.SacnOutput
import Audiophore.MonitorDump
import Audiophore.SacnRender
import Audiophore.SlotLayout
import Audiophore.Brightness
import Audiophore.AdapterRuns
import Audiophore.AdapterGuarantees
import Audiophore.SendSlots
import Audiophore.AwaitedSends
import Audiophore.WireAddresses
import Audiophore.ReceiverScreens
import Audiophore.PublicCalls
import Audiophore.CliUniverses
import Audiophore.EngineBus
import Audiophore.EngineRuns
import Audiophore.TaskIsolation
import Audiophore.AdapterLifecycle
import Audiophore.RunPipeline
import Audiophore.RunMonitor
import Audiophore.PipelineRuns
import Audiophore.AwaitedLoop
import Audiophore.PipelineProjections
import Audiophore.PanicFreedom
import Audiophore.TaskCalls
import Audiophore.PipelineSafety
import Audiophore.PipelineOutput
import Audiophore.Shutdown
import Audiophore.PipelineScreens
import Audiophore.Recovery
import Audiophore.AwaitedRuns
import Audiophore.DrivingMessages
import Audiophore.IterationOrder
