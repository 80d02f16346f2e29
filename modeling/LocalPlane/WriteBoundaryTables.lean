import LocalPlane.InitialTables

/-!
# The seventh schema

The tables of the change engine as the write boundary first defined them.
-/

set_option linter.dupNamespace false

namespace LocalPlane
namespace Migrations
namespace WriteBoundary

open Sql

def runPreviews : TableDef Table Column where
  columns := [.required .text .previewId,.required .text .previewDigest,.required .integer .digestVersion,
    .required .text .operation,.required .text .field,.required .text .valueType,.required .integer .currentValue,
    .required .integer .desiredValue,.required .text .intentId,.required .integer .intentVersion,
    .required .text .intentCapability,.required .text .intentProvider,.required .text .observationId,
    .required .text .sweepId,.required .text .observedAt,.nullable .text .driftFindingId,
    .required .text .ownershipState,.required .text .ownershipReason,.orElse .text .ownershipClaims (.text "[]"),
    .orElse .text .ownershipGaps (.text "[]"),.orElse .text .providerReadings (.text "\x7b\x7d"),
    .required .text .protectionStatus,.orElse .text .protectionReasons (.text "[]"),
    .orElse .text .protectionUnresolved (.text "[]"),.required .text .protectionManagementPath,
    .required .text .protectionReason,.orElse .text .protectionMissingEvidence (.text "[]"),
    .nullable .text .protectionEvidenceId,.nullable .text .protectionEvidenceObservedAt,.required .text .riskTier,
    .orElse .text .riskFactors (.text "[]"),.required .integer .confirmationRequired,
    .required .text .confirmationMethod,.required .text .confirmationSource,
    .orElse .text .confirmationReasons (.text "[]"),.required .text .confirmationPolicy,
    .required .integer .confirmationTokenIssued,.required .text .executionAvailability,
    .required .text .executionEligibility,.orElse .text .executionBlockers (.text "[]"),
    .nullable .text .executionProvider,.required .text .requiredCapability,.required .integer .capabilityDeclared,
    .required .text .recoveryMode,.required .integer .recoveryRollbackPossible,.required .integer .recoveryArmed,
    .required .text .recoveryGuarantee,.required .text .recoveryReason,.required .text .verificationCapability,
    .required .text .verificationProvider,.required .text .verificationCondition,
    .required .integer .verificationExecuted,.required .text .publishedAt]
  references := [⟨.intentId,.intents,.intentId⟩,⟨.observationId,.observations,.observationId⟩,
    ⟨.sweepId,.observationSweeps,.sweepId⟩,⟨.driftFindingId,.findings,.findingId⟩,
    ⟨.protectionEvidenceId,.managementPathObservations,.observationId⟩]
  uniques := [[.previewId]]
  checks := [
    .atLeast .digestVersion 1,
    .oneOf .operation ["network.interface.reconcile_mtu"],
    .oneOf .valueType ["boolean","integer"],
    .atLeast .intentVersion 1,
    .oneOf .protectionStatus ["protected","clear","unknown"],
    .oneOf .protectionManagementPath ["on_management_path","not_on_management_path","unknown"],
    .oneOf .riskTier ["low","medium","high"],
    .oneOfNumbers .confirmationRequired [0,1],
    .oneOf .confirmationMethod ["none","acknowledge","typed"],
    .oneOf .confirmationSource ["policy","operation"],
    .equalsNumber .confirmationTokenIssued 0,
    .oneOf .executionAvailability ["available","unavailable","not_implemented"],
    .oneOf .executionEligibility ["eligible","blocked"],
    .oneOfNumbers .capabilityDeclared [0,1],
    .oneOf .recoveryMode ["auto","operator","none"],
    .oneOfNumbers .recoveryRollbackPossible [0,1],
    .equalsNumber .recoveryArmed 0,
    .equalsNumber .verificationExecuted 0,
    .disagree .currentValue .desiredValue,
    .or (.differs .valueType "boolean") (.and (.oneOfNumbers .currentValue [0,1]) (.oneOfNumbers .desiredValue [0,1])),
    .or (.absent .protectionEvidenceId) (.present .protectionEvidenceObservedAt)]

def runs : TableDef Table Column where
  columns := [.required .text .runId,.required .text .hostId,.required .text .objectId,.required .text .operation,
    .required .text .state,.required .text .previewId,.orElse .text .hostEffect (.text "none"),
    .required .text .createdAt,.nullable .text .cancelledAt,.nullable .text .finishedAt]
  references := [⟨.hostId,.hosts,.hostId⟩,⟨.objectId,.objects,.objectId⟩,⟨.previewId,.runPreviews,.previewId⟩]
  uniques := [[.runId],[.previewId]]
  checks := [
    .oneOf .operation ["network.interface.reconcile_mtu"],
    .oneOf .state ["preview","awaiting_confirmation","arming","applying","verifying","succeeded","failed",
      "rolling_back","rollback_verifying","rolled_back","recovery_required","cancelled"],
    .oneOf .hostEffect ["none","written","write_unknown"],
    .same (.equals .state "cancelled") (.present .cancelledAt),
    .or (.equals .hostEffect "none") (.oneOf .state ["applying","verifying","succeeded","rolling_back",
      "rollback_verifying","rolled_back","recovery_required"]),
    .or (.differs .state "succeeded") (.equals .hostEffect "written"),
    .or (.differs .state "failed") (.equals .hostEffect "none"),
    .or (.differs .state "rolled_back") (.oneOf .hostEffect ["written","write_unknown"]),
    .or (.differs .state "recovery_required") (.oneOf .hostEffect ["written","write_unknown"])]

def runConfirmations : TableDef Table Column where
  columns := [.required .text .confirmationId,.required .text .runId,.required .text .previewId,
    .required .text .previewDigest,.required .integer .digestVersion,.required .text .requiredMethod,
    .required .text .method,.required .text .policy,.required .text .source,.required .text .satisfiedAt,
    .nullable .text .consumedAt,.nullable .text .consumedByAttemptId]
  references := [⟨.runId,.runs,.runId⟩,⟨.previewId,.runPreviews,.previewId⟩]
  uniques := [[.confirmationId],[.runId]]
  checks := [
    .atLeast .digestVersion 1,
    .oneOf .requiredMethod ["acknowledge","typed"],
    .oneOf .method ["acknowledge","typed"],
    .equals .source "unauthenticated_request"]

def runCheckpoints : TableDef Table Column where
  columns := [.required .text .checkpointId,.required .text .runId,.required .text .previewId,.required .text .hostId,
    .required .text .objectId,.required .text .intentId,.required .integer .intentVersion,.required .text .field,
    .required .text .valueType,.required .integer .beforeValue,.required .integer .desiredValue,
    .required .text .observationId,.required .text .observedAt,.required .text .protectionManagementPath,
    .nullable .text .protectionEvidenceId,.orElse .text .executionCorrelation (.text "\x7b\x7d"),
    .required .text .armedAt]
  references := [⟨.runId,.runs,.runId⟩,⟨.previewId,.runPreviews,.previewId⟩,⟨.hostId,.hosts,.hostId⟩,
    ⟨.objectId,.objects,.objectId⟩,⟨.intentId,.intents,.intentId⟩,⟨.observationId,.observations,.observationId⟩,
    ⟨.protectionEvidenceId,.managementPathObservations,.observationId⟩]
  uniques := [[.checkpointId],[.runId]]
  checks := [
    .atLeast .intentVersion 1,
    .oneOf .valueType ["boolean","integer"],
    .equals .protectionManagementPath "not_on_management_path",
    .disagree .beforeValue .desiredValue]

def changes : TableDef Table Column where
  columns := [.required .text .changeId,.required .text .runId,.required .text .previewId,
    .required .text .checkpointId,.required .text .hostId,.required .text .objectId,.required .text .operation,
    .required .text .field,.required .text .valueType,.required .integer .beforeValue,
    .required .integer .desiredValue,.required .text .createdAt,.required .text .applyAttemptId,
    .nullable .text .dispatchBeganAt,.nullable .text .mutationOutcome,.nullable .text .mutationReason,
    .nullable .text .mutationProvider,.nullable .text .mutationMethod,
    .orElse .text .mutationDetail (.text "\x7b\x7d"),.nullable .text .settledAt,
    .orElse .text .hostEffect (.text "none"),.orElse .text .verificationOutcome (.text "not_attempted"),
    .nullable .text .verificationObservationId,.nullable .integer .verificationObservedValue,
    .nullable .text .verificationReason,.orElse .integer .rollbackRequired (.integer 0),
    .nullable .text .rollbackAttemptId,.nullable .text .rollbackDispatchBeganAt,.nullable .text .rollbackOutcome,
    .nullable .text .rollbackReason,.orElse .text .rollbackDetail (.text "\x7b\x7d"),
    .orElse .text .rollbackVerificationOutcome (.text "not_attempted"),
    .nullable .text .rollbackVerificationObservationId,.nullable .integer .rollbackVerificationObservedValue,
    .orElse .text .result (.text "in_flight"),.nullable .text .recoveryReason,.nullable .text .finishedAt]
  references := [⟨.runId,.runs,.runId⟩,⟨.previewId,.runPreviews,.previewId⟩,
    ⟨.checkpointId,.runCheckpoints,.checkpointId⟩,⟨.hostId,.hosts,.hostId⟩,⟨.objectId,.objects,.objectId⟩,
    ⟨.verificationObservationId,.observations,.observationId⟩,
    ⟨.rollbackVerificationObservationId,.observations,.observationId⟩]
  uniques := [[.changeId],[.runId],[.applyAttemptId],[.rollbackAttemptId]]
  checks := [
    .oneOf .operation ["network.interface.reconcile_mtu"],
    .oneOf .valueType ["boolean","integer"],
    .or (.absent .mutationOutcome) (.oneOf .mutationOutcome ["not_written","written","write_unknown"]),
    .oneOf .hostEffect ["none","written","write_unknown"],
    .oneOf .verificationOutcome ["not_attempted","verified","mismatch","value_unreadable","observation_unavailable",
      "source_incompatible","target_absent"],
    .oneOfNumbers .rollbackRequired [0,1],
    .or (.absent .rollbackOutcome) (.oneOf .rollbackOutcome ["not_written","written","write_unknown"]),
    .oneOf .rollbackVerificationOutcome ["not_attempted","verified","mismatch","value_unreadable",
      "observation_unavailable","source_incompatible","target_absent"],
    .oneOf .result ["in_flight","succeeded","failed","rolled_back","recovery_required"],
    .disagree .beforeValue .desiredValue,
    .any (.absent .mutationOutcome) [.equals .mutationOutcome "not_written",.present .dispatchBeganAt],
    .any (.and (.absent .mutationOutcome) (.equals .hostEffect "none"))
      [.and (.equals .mutationOutcome "not_written") (.equals .hostEffect "none"),
      .and (.equals .mutationOutcome "written") (.equals .hostEffect "written"),
      .and (.equals .mutationOutcome "write_unknown") (.equals .hostEffect "write_unknown")],
    .or (.differs .result "failed") (.and (.equals .mutationOutcome "not_written") (.equals .hostEffect "none")),
    .or (.differs .result "succeeded") (.and (.equals .mutationOutcome "written")
      (.equals .verificationOutcome "verified")),
    .or (.differs .result "rolled_back") (.equals .rollbackVerificationOutcome "verified"),
    .or (.differs .result "recovery_required") (.present .recoveryReason),
    .or (.differs .verificationOutcome "verified") (.present .verificationObservationId),
    .or (.differs .rollbackVerificationOutcome "verified") (.present .rollbackVerificationObservationId)]

def runEvents : TableDef Table Column where
  columns := [.required .text .eventId,.required .text .runId,.nullable .text .changeId,.required .integer .sequence,
    .required .text .event,.nullable .text .stateFrom,.nullable .text .stateTo,.required .text .occurredAt,
    .orElse .text .detail (.text "\x7b\x7d")]
  references := [⟨.runId,.runs,.runId⟩,⟨.changeId,.changes,.changeId⟩]
  uniques := [[.eventId],[.runId,.sequence]]
  checks := [
    .atLeast .sequence 1,
    .oneOf .event ["run_planned","run_cancelled","confirmation_satisfied","confirmation_required",
      "confirmation_consumed","apply_refused","arming_started","checkpoint_written","arming_failed",
      "write_boundary_crossed","mutation_dispatched","mutation_result","verification_started","verification_result",
      "rollback_started","rollback_mutation_dispatched","rollback_mutation_result","rollback_verification_started",
      "rollback_verification_result","recovery_required","run_finished"]]

def objectWriteLocks : TableDef Table Column where
  columns := [.required .text .lockKey,.required .text .hostId,.required .text .objectId,.required .text .field,
    .required .text .runId,.required .text .acquiredAt]
  references := [⟨.hostId,.hosts,.hostId⟩,⟨.objectId,.objects,.objectId⟩,⟨.runId,.runs,.runId⟩]
  uniques := [[.lockKey],[.runId],[.objectId,.field]]
  checks := []

def idxRunsHostCreated : Index Table Column where
  table := .runs
  columns := [.hostId,.createdAt]
  unique := false
  filter := none

def idxRunsObjectCreated : Index Table Column where
  table := .runs
  columns := [.objectId,.createdAt]
  unique := false
  filter := none

def idxChangesHostCreated : Index Table Column where
  table := .changes
  columns := [.hostId,.createdAt]
  unique := false
  filter := none

def idxChangesObjectCreated : Index Table Column where
  table := .changes
  columns := [.objectId,.createdAt]
  unique := false
  filter := none

def idxRunEventsRun : Index Table Column where
  table := .runEvents
  columns := [.runId,.sequence]
  unique := false
  filter := none

def runPreviewsAreImmutable : Trigger Table Column where
  table := .runPreviews
  event := .update []
  condition := .always

def runsIntentBelongsToObject : Trigger Table Column where
  table := .runs
  event := .insert
  condition := .not (.anyJoin .runPreviews .intents (.all (.agree (second .intentId) (first .intentId))
    [.agree (first .previewId) (new .previewId),.agree (second .objectId) (new .objectId)]))

def runsObservationBelongsToObject : Trigger Table Column where
  table := .runs
  event := .insert
  condition := .not (.anyJoin .runPreviews .observations (.all
    (.agree (second .observationId) (first .observationId))
    [.agree (first .previewId) (new .previewId),.agree (second .objectId) (new .objectId)]))

def runsIdentityIsImmutable : Trigger Table Column where
  table := .runs
  event := .update [.runId,.hostId,.objectId,.operation,.previewId,.createdAt]
  condition := .always

def runsProtectionEvidenceBelongsToHost : Trigger Table Column where
  table := .runs
  event := .insert
  condition := .anyJoin .runPreviews .managementPathObservations
    (.all (.agree (second .observationId) (first .protectionEvidenceId))
    [.agree (first .previewId) (new .previewId),.disagree (second .hostId) (new .hostId)])

def runConfirmationsMatchTheRunsPreview : Trigger Table Column where
  table := .runConfirmations
  event := .insert
  condition := .not (.any .runs (.and (.agree (first .runId) (new .runId))
    (.agree (first .previewId) (new .previewId))))

def runConfirmationsAreConsumedOnce : Trigger Table Column where
  table := .runConfirmations
  event := .update []
  condition := .holds (.present (old .consumedAt))

def runCheckpointsAreImmutable : Trigger Table Column where
  table := .runCheckpoints
  event := .update []
  condition := .always

def changesIdentityIsImmutable : Trigger Table Column where
  table := .changes
  event := .update [.changeId,.runId,.previewId,.checkpointId,.hostId,.objectId,.operation,.field,.valueType,
    .beforeValue,.desiredValue,.createdAt,.applyAttemptId]
  condition := .always

def changesRequireAConsumedConfirmation : Trigger Table Column where
  table := .changes
  event := .insert
  condition := .not (.any .runConfirmations (.all (.agree (first .runId) (new .runId))
    [.agree (first .previewId) (new .previewId),.present (first .consumedAt)]))

def runEventsAreAppendOnly : Trigger Table Column where
  table := .runEvents
  event := .update []
  condition := .always

def runEventsAreNotDeleted : Trigger Table Column where
  table := .runEvents
  event := .delete
  condition := .always

/-- The schema the seventh migration leaves. -/
def schema : Schema Table Column Name where
  tables := [(.hosts,Initial.hosts),(.agentInstances,Initial.agentInstances),
    (.agentCapabilities,Initial.agentCapabilities),(.objects,Initial.objects),
    (.observationSweeps,Initial.observationSweeps),(.observations,Initial.observations),(.intents,Initial.intents),
    (.intentFields,Initial.intentFields),(.managementTransitions,Initial.managementTransitions),
    (.providerObservations,Initial.providerObservations),(.ownershipFindings,Initial.ownershipFindings),
    (.intentRevisions,Initial.intentRevisions),(.findings,Initial.findings),
    (.managementPathObservations,Initial.managementPathObservations),(.runPreviews,runPreviews),(.runs,runs),
    (.runConfirmations,runConfirmations),(.runCheckpoints,runCheckpoints),(.changes,changes),(.runEvents,runEvents),
    (.objectWriteLocks,objectWriteLocks)]
  indexes := [(.idxAgentInstancesHost,Initial.idxAgentInstancesHost),(.idxObjectsHostKind,Initial.idxObjectsHostKind),
    (.idxSweepsHostReceived,Initial.idxSweepsHostReceived),
    (.idxObservationsObjectTime,Initial.idxObservationsObjectTime),
    (.idxObservationsSweep,Initial.idxObservationsSweep),(.idxIntentsObjectVersion,Initial.idxIntentsObjectVersion),
    (.idxTransitionsObjectTime,Initial.idxTransitionsObjectTime),
    (.idxProviderObservationsNewest,Initial.idxProviderObservationsNewest),
    (.idxOwnershipFindingsOneOpenPerKey,Initial.idxOwnershipFindingsOneOpenPerKey),
    (.idxOwnershipFindingsObject,Initial.idxOwnershipFindingsObject),
    (.idxOwnershipFindingsHost,Initial.idxOwnershipFindingsHost),
    (.idxIntentRevisionsObjectTime,Initial.idxIntentRevisionsObjectTime),
    (.idxFindingsOneOpenPerKey,Initial.idxFindingsOneOpenPerKey),(.idxFindingsObject,Initial.idxFindingsObject),
    (.idxFindingsHost,Initial.idxFindingsHost),
    (.idxManagementPathObservationsMatch,Initial.idxManagementPathObservationsMatch),
    (.idxRunsHostCreated,idxRunsHostCreated),(.idxRunsObjectCreated,idxRunsObjectCreated),
    (.idxChangesHostCreated,idxChangesHostCreated),(.idxChangesObjectCreated,idxChangesObjectCreated),
    (.idxRunEventsRun,idxRunEventsRun)]
  triggers := [(.objectsActiveIntentBelongsToObjectInsert,Initial.objectsActiveIntentBelongsToObjectInsert),
    (.objectsActiveIntentBelongsToObjectUpdate,Initial.objectsActiveIntentBelongsToObjectUpdate),
    (.managementPathObservationsAreImmutable,Initial.managementPathObservationsAreImmutable),
    (.runPreviewsAreImmutable,runPreviewsAreImmutable),(.runsIntentBelongsToObject,runsIntentBelongsToObject),
    (.runsObservationBelongsToObject,runsObservationBelongsToObject),
    (.runsIdentityIsImmutable,runsIdentityIsImmutable),
    (.runsProtectionEvidenceBelongsToHost,runsProtectionEvidenceBelongsToHost),
    (.runConfirmationsMatchTheRunsPreview,runConfirmationsMatchTheRunsPreview),
    (.runConfirmationsAreConsumedOnce,runConfirmationsAreConsumedOnce),
    (.runCheckpointsAreImmutable,runCheckpointsAreImmutable),(.changesIdentityIsImmutable,changesIdentityIsImmutable),
    (.changesRequireAConsumedConfirmation,changesRequireAConsumedConfirmation),
    (.runEventsAreAppendOnly,runEventsAreAppendOnly),(.runEventsAreNotDeleted,runEventsAreNotDeleted)]

end WriteBoundary
end Migrations
end LocalPlane
