import LocalPlane.Soundness
import LocalPlane.WriteLocks
import LocalPlane.StateOrder
import LocalPlane.GuardHistory
import LocalPlane.AttemptMemory
import LocalPlane.OutcomeSoundness
import LocalPlane.StoredPlan
import LocalPlane.Transcript
import LocalPlane.GuardSettlement
import LocalPlane.ManagementGate
import LocalPlane.ReadBack
import LocalPlane.OwnershipConflicts
import LocalPlane.DispatchOutcome
import LocalPlane.Containment
import LocalPlane.ReleasedRows
import LocalPlane.PathSoundness
import LocalPlane.LifecycleWire
import LocalPlane.OwnerSoundness
import LocalPlane.EffectAnswer
import LocalPlane.CancelledRuns
import LocalPlane.AuthorityAccounts
import LocalPlane.SelfImpact
import LocalPlane.SetMtu
import LocalPlane.Authentication
import LocalPlane.InterfaceIdentity
import LocalPlane.UpgradedStores
import LocalPlane.Staleness
import LocalPlane.StoreTransactions
import LocalPlane.SocketSoundness
import LocalPlane.RouteSoundness
import LocalPlane.DockerBridges
import LocalPlane.RestartRuns
import LocalPlane.LapsedGuards
import LocalPlane.InterruptedAttempts
import LocalPlane.GroundedFindings
import LocalPlane.RetryDiscipline
import LocalPlane.MigrationRuns
import LocalPlane.Utf8
import LocalPlane.ResourceRuns
import LocalPlane.InventoryRuns
import LocalPlane.ContainerLogs
import LocalPlane.MountPrint
import LocalPlane.StorageSnapshot
import LocalPlane.TopologyShown
import LocalPlane.UnitInventory
import LocalPlane.JournalAnswers
import LocalPlane.LifecycleProtection
import LocalPlane.NetworkManagerDevices
import LocalPlane.OwnershipFreshness
import LocalPlane.AuthoritativeAbsence
import LocalPlane.RecoveryHold
import LocalPlane.CollectorRuns
import LocalPlane.LineCalls
import LocalPlane.CgroupWalk
import LocalPlane.MasterSecretRuns
