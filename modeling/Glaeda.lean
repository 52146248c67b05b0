import Glaeda.Checked
import Glaeda.Identity
import Glaeda.ExecutionAdmission
import Glaeda.PersonalQueue
import Glaeda.AttemptState
import Glaeda.AttemptHistory
import Glaeda.AttemptCatalog
import Glaeda.WorkerReconciler
import Glaeda.WorkerRun
import Glaeda.KeyedList
import Glaeda.CatalogHistory
import Glaeda.CatalogAccounting
import Glaeda.CatalogRun
import Glaeda.CatalogSuccessor
import Glaeda.Sha256
import Glaeda.Json
import Glaeda.JsonReader
import Glaeda.Delivery
import Glaeda.CatalogCodec
import Glaeda.CatalogDecoder
import Glaeda.DeliveryDecoder
import Glaeda.BridgeMessage
import Glaeda.DeliveryConsumer
import Glaeda.DeliveryReplay
import Glaeda.DeliveryState
import Glaeda.DeliveryResolution
import Glaeda.RecoveryCodec
import Glaeda.RecoveryDecoder
import Glaeda.PersonalStore
import Glaeda.Transaction
import Glaeda.PersonalPublication
import Glaeda.PersonalTransaction
import Glaeda.PersonalWork
import Glaeda.DeliverySteps
import Glaeda.DeliveryAcquisition
import Glaeda.DeliverySettlement
import Glaeda.DeliveryStore
import Glaeda.StoreRecovery
import Glaeda.CatalogPublication
import Glaeda.DeliveryCrash
import Glaeda.ExecutionJournal
import Glaeda.DurableJournal
import Glaeda.RollingTipLedger
import Glaeda.RollingTipOperations
import Glaeda.RollingTipSteps
import Glaeda.RollingTipReplay
import Glaeda.RollingTipAdmission
import Glaeda.RollingTipLeases
import Glaeda.Records
import Glaeda.RollingTipStore
import Glaeda.RollingTipRefusals
import Glaeda.PersonalEvaluation
import Glaeda.HostBroker
import Glaeda.PersonalTick
import Glaeda.PersonalAdvance
import Glaeda.PersonalRelease
import Glaeda.PersonalCapacity
import Glaeda.SortedList
import Glaeda.ResidentConfig
import Glaeda.ResidentCatalog
import Glaeda.ResidentOperations
import Glaeda.ResidentSuccessor
import Glaeda.ResidentHistory
import Glaeda.ResidentStore
import Glaeda.ProjectDiskLease
import Glaeda.ProjectDiskAttachment
import Glaeda.ProjectDiskAttachmentRuns
import Glaeda.Overlay
import Glaeda.LinuxElf
import Glaeda.LinuxElfImage
import Glaeda.Optimistic
import Glaeda.RouteLedger
import Glaeda.RouteRuns
import Glaeda.Framing
import Glaeda.FleetObjects
import Glaeda.FleetIndex
import Glaeda.FleetSign
import Glaeda.Protobuf
import Glaeda.FleetEmbedded
import Glaeda.CapacityPlan
import Glaeda.PersonalDecision
