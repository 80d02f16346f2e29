import LocalPlane.AuthenticationMigration

/-!
# The schema of a store that is up to date

Each table as the last migration that rebuilt it defined it, with the rules that stand on it.
-/

set_option linter.dupNamespace false

namespace LocalPlane
namespace Migrations

open Sql

/-- The schema the last migration leaves. -/
def currentSchema : Schema Table Column Name where
  tables := [(.hosts,Initial.hosts),(.agentInstances,Initial.agentInstances),
    (.agentCapabilities,Initial.agentCapabilities),(.objects,Docker.objects),
    (.observationSweeps,ObservationScope.observationSweeps),(.observations,Initial.observations),
    (.intents,Initial.intents),(.intentFields,Initial.intentFields),
    (.managementTransitions,Initial.managementTransitions),(.providerObservations,Initial.providerObservations),
    (.ownershipFindings,Initial.ownershipFindings),(.intentRevisions,Initial.intentRevisions),
    (.findings,Initial.findings),(.managementPathObservations,Initial.managementPathObservations),
    (.runPreviews,SelfImpactOverride.runPreviews),(.runs,SystemdLifecycle.runs),
    (.runConfirmations,Authentication.runConfirmations),(.runCheckpoints,ConnectionGuard.runCheckpoints),
    (.changes,SystemdLifecycleChanges.changes),(.runEvents,ConnectionGuard.runEvents),
    (.objectWriteLocks,WriteBoundary.objectWriteLocks),(.changeRecoveryAttempts,Recovery.changeRecoveryAttempts),
    (.runGuards,ConnectionGuard.runGuards)]
  indexes := [(.idxAgentInstancesHost,Initial.idxAgentInstancesHost),
    (.idxSweepsHostReceived,Initial.idxSweepsHostReceived),
    (.idxObservationsObjectTime,Initial.idxObservationsObjectTime),
    (.idxObservationsSweep,Initial.idxObservationsSweep),(.idxIntentsObjectVersion,Initial.idxIntentsObjectVersion),
    (.idxTransitionsObjectTime,Initial.idxTransitionsObjectTime),
    (.idxProviderObservationsNewest,Initial.idxProviderObservationsNewest),
    (.idxOwnershipFindingsOneOpenPerKey,Initial.idxOwnershipFindingsOneOpenPerKey),
    (.idxOwnershipFindingsObject,Initial.idxOwnershipFindingsObject),
    (.idxOwnershipFindingsHost,Initial.idxOwnershipFindingsHost),
    (.idxIntentRevisionsObjectTime,Initial.idxIntentRevisionsObjectTime),
    (.idxFindingsOneOpenPerKey,Initial.idxFindingsOneOpenPerKey),(.idxFindingsObject,Initial.idxFindingsObject),
    (.idxFindingsHost,Initial.idxFindingsHost),
    (.idxManagementPathObservationsMatch,Initial.idxManagementPathObservationsMatch),
    (.idxObjectsHostKind,Initial.idxObjectsHostKind),(.idxRecoveryAttemptsChange,Recovery.idxRecoveryAttemptsChange),
    (.oneRecoveryAttemptInFlightPerChange,Recovery.oneRecoveryAttemptInFlightPerChange),
    (.oneReleasePerRecoveryHold,Recovery.oneReleasePerRecoveryHold),
    (.idxRunGuardsObject,ConnectionGuard.idxRunGuardsObject),(.idxRunEventsRun,WriteBoundary.idxRunEventsRun),
    (.idxSweepsHostCapabilityScopeReceived,ObservationScope.idxSweepsHostCapabilityScopeReceived),
    (.idxRunsHostCreated,WriteBoundary.idxRunsHostCreated),(.idxRunsObjectCreated,WriteBoundary.idxRunsObjectCreated),
    (.idxChangesHostCreated,WriteBoundary.idxChangesHostCreated),
    (.idxChangesObjectCreated,WriteBoundary.idxChangesObjectCreated),
    (.oneApplyConfirmationPerRun,Recovery.oneApplyConfirmationPerRun),
    (.oneOutstandingRecoveryConfirmationPerRun,Recovery.oneOutstandingRecoveryConfirmationPerRun),
    (.oneSelfImpactOverridePerRun,SelfImpactOverride.oneSelfImpactOverridePerRun)]
  triggers := [(.managementPathObservationsAreImmutable,Initial.managementPathObservationsAreImmutable),
    (.objectsActiveIntentBelongsToObjectInsert,Initial.objectsActiveIntentBelongsToObjectInsert),
    (.objectsActiveIntentBelongsToObjectUpdate,Initial.objectsActiveIntentBelongsToObjectUpdate),
    (.recoveryAttemptsCiteTheirOwnEvidenceOnInsert,Recovery.recoveryAttemptsCiteTheirOwnEvidenceOnInsert),
    (.recoveryAttemptsCiteTheirOwnEvidenceOnUpdate,Recovery.recoveryAttemptsCiteTheirOwnEvidenceOnUpdate),
    (.recoveryAttemptsIdentityIsImmutable,Recovery.recoveryAttemptsIdentityIsImmutable),
    (.recoveryAttemptsSettleOnce,Recovery.recoveryAttemptsSettleOnce),
    (.recoveryAttemptsAreNotDeleted,Recovery.recoveryAttemptsAreNotDeleted),
    (.recoveryReleaseRequiresTheHoldOnInsert,Recovery.recoveryReleaseRequiresTheHoldOnInsert),
    (.recoveryReleaseRequiresTheHoldOnUpdate,Recovery.recoveryReleaseRequiresTheHoldOnUpdate),
    (.runCheckpointsAreImmutable,WriteBoundary.runCheckpointsAreImmutable),
    (.runGuardsIdentityIsImmutable,ConnectionGuard.runGuardsIdentityIsImmutable),
    (.runGuardsSettleOnce,ConnectionGuard.runGuardsSettleOnce),
    (.runGuardsAreNotDeleted,ConnectionGuard.runGuardsAreNotDeleted),
    (.runGuardsCiteTheirOwnEvidenceOnInsert,ConnectionGuard.runGuardsCiteTheirOwnEvidenceOnInsert),
    (.runGuardsKeepEvidenceIsTheirOwn,ConnectionGuard.runGuardsKeepEvidenceIsTheirOwn),
    (.runEventsAreAppendOnly,WriteBoundary.runEventsAreAppendOnly),
    (.runEventsAreNotDeleted,WriteBoundary.runEventsAreNotDeleted),
    (.runsIdentityIsImmutable,WriteBoundary.runsIdentityIsImmutable),
    (.runPreviewsAreImmutable,WriteBoundary.runPreviewsAreImmutable),
    (.runsIntentBelongsToObject,Docker.runsIntentBelongsToObject),
    (.runsObservationBelongsToObject,WriteBoundary.runsObservationBelongsToObject),
    (.runsProtectionEvidenceBelongsToHost,WriteBoundary.runsProtectionEvidenceBelongsToHost),
    (.changesIdentityIsImmutable,Docker.changesIdentityIsImmutable),
    (.changesCheckpointBelongsToRun,Docker.changesCheckpointBelongsToRun),
    (.changesOnTheManagementPathRequireAnArmedGuard,ConnectionGuard.changesOnTheManagementPathRequireAnArmedGuard),
    (.recoveryAttemptsBelongToARecoveryHold,Recovery.recoveryAttemptsBelongToARecoveryHold),
    (.runConfirmationsMatchTheRunsPreview,WriteBoundary.runConfirmationsMatchTheRunsPreview),
    (.runConfirmationsAreConsumedOnce,WriteBoundary.runConfirmationsAreConsumedOnce),
    (.changesRequireAConsumedConfirmation,Recovery.changesRequireAConsumedConfirmation),
    (.changesRequiringASelfImpactOverrideHaveOne,SelfImpactOverride.changesRequiringASelfImpactOverrideHaveOne),
    (.runGuardsRequireTheTypedAuthority,ConnectionGuard.runGuardsRequireTheTypedAuthority),
    (.recoveryMutationNamesTheAuthoritySpentOnItOnInsert,Recovery.recoveryMutationNamesTheAuthoritySpentOnItOnInsert),
    (.recoveryMutationNamesTheAuthoritySpentOnItOnUpdate,Recovery.recoveryMutationNamesTheAuthoritySpentOnItOnUpdate)]

end Migrations
end LocalPlane
