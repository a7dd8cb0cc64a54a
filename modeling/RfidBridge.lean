import RfidBridge.Protocol.BurstErrors
import RfidBridge.Protocol.TagGrammar
import RfidBridge.Library.Table
import RfidBridge.Library.Pool
import RfidBridge.Library.Translation
import RfidBridge.Delivery.DeliveryLedger
import RfidBridge.Runtime.ExecutedCommands
import RfidBridge.Store.RepeatedReads
import RfidBridge.Worker.TagFrames
import RfidBridge.Worker.StopSuccess
import RfidBridge.Worker.FrameAccount
import RfidBridge.Delivery.StrandedEvents
import RfidBridge.Delivery.SettledCycles
import RfidBridge.Delivery.BatchDelivery
import RfidBridge.Delivery.CancelledSessions
import RfidBridge.Delivery.InterruptedDelivery
import RfidBridge.Runtime.ForeignCommands
import RfidBridge.Runtime.FailureAcks
import RfidBridge.Worker.Ownership
import RfidBridge.Worker.OpenSessions
import RfidBridge.Worker.Shutdown
import RfidBridge.Worker.Segmentation
import RfidBridge.Worker.WorkerContract
import RfidBridge.Store.SessionLifecycle
import RfidBridge.Store.ObservedTags
import RfidBridge.Worker.IdleReader
import RfidBridge.Scan.SessionScans
import RfidBridge.Worker.Attribution
import RfidBridge.Scan.CachedReads
import RfidBridge.Worker.StopBalance
import RfidBridge.Delivery.QueueDrain
import RfidBridge.Worker.FinalStates
import RfidBridge.Worker.ReaderIsolation
