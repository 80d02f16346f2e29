import LocalPlane.RecoveryMigration

/-!
# The tenth migration

The connection guard: five tables are rebuilt, and guards are recorded.
-/

set_option linter.dupNamespace false

namespace LocalPlane
namespace Migrations
namespace ConnectionGuard

open Sql

def runPreviews : TableDef Table Column where
  columns := [.required .text .previewId,.required .text .previewDigest,.required .integer .digestVersion,
    .required .text .operation,.required .text .changeKind,.nullable .text .field,.nullable .text .valueType,
    .nullable .integer .currentValue,.nullable .integer .desiredValue,.nullable .text .action,
    .nullable .text .observedState,.nullable .text .expectedState,.nullable .text .intentId,
    .nullable .integer .intentVersion,.nullable .text .intentCapability,.nullable .text .intentProvider,
    .required .text .observationId,.required .text .sweepId,.required .text .observedAt,
    .nullable .text .driftFindingId,.required .text .ownershipState,.required .text .ownershipReason,
    .orElse .text .ownershipClaims (.text "[]"),.orElse .text .ownershipGaps (.text "[]"),
    .orElse .text .providerReadings (.text "\x7b\x7d"),.required .text .protectionStatus,
    .orElse .text .protectionReasons (.text "[]"),.orElse .text .protectionUnresolved (.text "[]"),
    .required .text .protectionManagementPath,.required .text .protectionReason,
    .orElse .text .protectionMissingEvidence (.text "[]"),.nullable .text .protectionEvidenceId,
    .nullable .text .protectionEvidenceObservedAt,.required .text .riskTier,.orElse .text .riskFactors (.text "[]"),
    .required .integer .confirmationRequired,.required .text .confirmationMethod,.required .text .confirmationSource,
    .orElse .text .confirmationReasons (.text "[]"),.required .text .confirmationPolicy,
    .required .integer .confirmationTokenIssued,.required .text .executionAvailability,
    .required .text .executionEligibility,.orElse .text .executionBlockers (.text "[]"),
    .nullable .text .executionProvider,.required .text .requiredCapability,.required .integer .capabilityDeclared,
    .orElse .text .guardAvailability (.text "unavailable"),.orElse .text .guardReason (.text "guard_not_required"),
    .orElse .integer .guardWindowS (.integer 0),.orElse .text .guardPrerequisites (.text "[]"),
    .orElse .text .guardUnmet (.text "[]"),.orElse .text .guardGuarantee (.text ""),
    .orElse .integer .guardArmed (.integer 0),.required .text .recoveryMode,
    .required .integer .recoveryRollbackPossible,.required .integer .recoveryArmed,.required .text .recoveryGuarantee,
    .required .text .recoveryReason,.required .text .verificationCapability,.required .text .verificationProvider,
    .required .text .verificationCondition,.required .integer .verificationExecuted,.required .text .publishedAt]
  references := [⟨.intentId,.intents,.intentId⟩,⟨.observationId,.observations,.observationId⟩,
    ⟨.sweepId,.observationSweeps,.sweepId⟩,⟨.driftFindingId,.findings,.findingId⟩,
    ⟨.protectionEvidenceId,.managementPathObservations,.observationId⟩]
  uniques := [[.previewId]]
  checks := [
    .atLeast .digestVersion 1,
    .oneOf .operation ["network.interface.reconcile_mtu","docker.container.start","docker.container.stop",
      "docker.container.restart"],
    .oneOf .changeKind ["field","action"],
    .or (.absent .valueType) (.oneOf .valueType ["boolean","integer"]),
    .or (.absent .intentVersion) (.atLeast .intentVersion 1),
    .oneOf .protectionStatus ["protected","clear","unknown"],
    .oneOf .protectionManagementPath ["on_management_path","not_on_management_path","unknown"],
    .oneOf .riskTier ["low","medium","high"],
    .oneOfNumbers .confirmationRequired [0,1],
    .oneOf .confirmationMethod ["none","acknowledge","typed"],
    .oneOf .confirmationSource ["policy","operation"],
    .equalsNumber .confirmationTokenIssued 0,
    .oneOf .executionAvailability ["available","unavailable","not_implemented"],
    .oneOf .executionEligibility ["eligible","guarded","blocked"],
    .oneOfNumbers .capabilityDeclared [0,1],
    .oneOf .guardAvailability ["available","unavailable"],
    .atLeast .guardWindowS 0,
    .equalsNumber .guardArmed 0,
    .oneOf .recoveryMode ["auto","operator","none"],
    .oneOfNumbers .recoveryRollbackPossible [0,1],
    .equalsNumber .recoveryArmed 0,
    .equalsNumber .verificationExecuted 0,
    .or (.differs .changeKind "field") (.all (.present .field)
      [.present .valueType,.present .currentValue,.present .desiredValue,.disagree .currentValue .desiredValue,
      .or (.differs .valueType "boolean") (.and (.oneOfNumbers .currentValue [0,1])
      (.oneOfNumbers .desiredValue [0,1])),.present .intentId,.present .intentVersion,.present .intentCapability,
      .present .intentProvider,.absent .action,.absent .observedState,.absent .expectedState]),
    .or (.differs .changeKind "action") (.all (.present .action)
      [.present .observedState,.present .expectedState,.absent .field,.absent .valueType,.absent .currentValue,
      .absent .desiredValue,.absent .intentId,.absent .intentVersion,.absent .intentCapability,
      .absent .intentProvider,.absent .driftFindingId]),
    .or (.absent .protectionEvidenceId) (.present .protectionEvidenceObservedAt),
    .or (.differs .executionEligibility "guarded") (.and (.equals .guardAvailability "available")
      (.equals .protectionManagementPath "on_management_path")),
    .or (.differs .guardAvailability "available") (.equals .protectionManagementPath "on_management_path"),
    .or (.differs .guardAvailability "available") (.moreThan .guardWindowS 0)]

def runPreviewsInto : List Column := [.previewId,.previewDigest,.digestVersion,.operation,.changeKind,.field,
  .valueType,.currentValue,.desiredValue,.action,.observedState,.expectedState,.intentId,.intentVersion,
  .intentCapability,.intentProvider,.observationId,.sweepId,.observedAt,.driftFindingId,.ownershipState,
  .ownershipReason,.ownershipClaims,.ownershipGaps,.providerReadings,.protectionStatus,.protectionReasons,
  .protectionUnresolved,.protectionManagementPath,.protectionReason,.protectionMissingEvidence,.protectionEvidenceId,
  .protectionEvidenceObservedAt,.riskTier,.riskFactors,.confirmationRequired,.confirmationMethod,.confirmationSource,
  .confirmationReasons,.confirmationPolicy,.confirmationTokenIssued,.executionAvailability,.executionEligibility,
  .executionBlockers,.executionProvider,.requiredCapability,.capabilityDeclared,.guardAvailability,.guardReason,
  .guardWindowS,.guardPrerequisites,.guardUnmet,.guardGuarantee,.guardArmed,.recoveryMode,.recoveryRollbackPossible,
  .recoveryArmed,.recoveryGuarantee,.recoveryReason,.verificationCapability,.verificationProvider,
  .verificationCondition,.verificationExecuted,.publishedAt]

def runPreviewsSelect : List (Supply Table Column) := [.column .previewId,.column .previewDigest,
  .column .digestVersion,.column .operation,.column .changeKind,.column .field,.column .valueType,
  .column .currentValue,.column .desiredValue,.column .action,.column .observedState,.column .expectedState,
  .column .intentId,.column .intentVersion,.column .intentCapability,.column .intentProvider,.column .observationId,
  .column .sweepId,.column .observedAt,.column .driftFindingId,.column .ownershipState,.column .ownershipReason,
  .column .ownershipClaims,.column .ownershipGaps,.column .providerReadings,.column .protectionStatus,
  .column .protectionReasons,.column .protectionUnresolved,.column .protectionManagementPath,
  .column .protectionReason,.column .protectionMissingEvidence,.column .protectionEvidenceId,
  .column .protectionEvidenceObservedAt,.column .riskTier,.column .riskFactors,.column .confirmationRequired,
  .column .confirmationMethod,.column .confirmationSource,.column .confirmationReasons,.column .confirmationPolicy,
  .column .confirmationTokenIssued,.column .executionAvailability,.column .executionEligibility,
  .column .executionBlockers,.column .executionProvider,.column .requiredCapability,.column .capabilityDeclared,
  .value (.text "unavailable"),.value (.text "guard_not_required"),.value (.integer 0),.value (.text "[]"),
  .value (.text "[]"),.value (.text ""),.value (.integer 0),.column .recoveryMode,.column .recoveryRollbackPossible,
  .column .recoveryArmed,.column .recoveryGuarantee,.column .recoveryReason,.column .verificationCapability,
  .column .verificationProvider,.column .verificationCondition,.column .verificationExecuted,.column .publishedAt]

def runs : TableDef Table Column where
  columns := [.required .text .runId,.required .text .hostId,.required .text .objectId,.required .text .operation,
    .required .text .state,.required .text .previewId,.orElse .text .hostEffect (.text "none"),
    .required .text .createdAt,.nullable .text .cancelledAt,.nullable .text .finishedAt]
  references := [⟨.hostId,.hosts,.hostId⟩,⟨.objectId,.objects,.objectId⟩,⟨.previewId,.runPreviews,.previewId⟩]
  uniques := [[.runId],[.previewId]]
  checks := [
    .oneOf .operation ["network.interface.reconcile_mtu","docker.container.start","docker.container.stop",
      "docker.container.restart"],
    .oneOf .state ["preview","awaiting_confirmation","arming","applying","verifying","guarded","succeeded","failed",
      "rolling_back","rollback_verifying","rolled_back","recovery_required","cancelled"],
    .oneOf .hostEffect ["none","written","write_unknown"],
    .same (.equals .state "cancelled") (.present .cancelledAt),
    .or (.equals .hostEffect "none") (.oneOf .state ["applying","verifying","guarded","succeeded","rolling_back",
      "rollback_verifying","rolled_back","recovery_required"]),
    .or (.differs .state "succeeded") (.equals .hostEffect "written"),
    .or (.differs .state "guarded") (.equals .hostEffect "written"),
    .or (.differs .state "failed") (.equals .hostEffect "none"),
    .or (.differs .state "rolled_back") (.oneOf .hostEffect ["written","write_unknown"]),
    .or (.differs .state "recovery_required") (.oneOf .hostEffect ["written","write_unknown"])]

def runsInto : List Column := [.runId,.hostId,.objectId,.operation,.state,.previewId,.hostEffect,.createdAt,
  .cancelledAt,.finishedAt]

def runsSelect : List (Supply Table Column) := [.column .runId,.column .hostId,.column .objectId,.column .operation,
  .column .state,.column .previewId,.column .hostEffect,.column .createdAt,.column .cancelledAt,.column .finishedAt]

def runConfirmations : TableDef Table Column where
  columns := [.required .text .confirmationId,.required .text .runId,.required .text .purpose,
    .required .text .previewId,.required .text .previewDigest,.required .integer .digestVersion,
    .required .text .requiredMethod,.required .text .method,.nullable .text .typedStatement,.required .text .policy,
    .required .text .source,.required .text .satisfiedAt,.nullable .text .consumedAt,
    .nullable .text .consumedByAttemptId]
  references := [⟨.runId,.runs,.runId⟩,⟨.previewId,.runPreviews,.previewId⟩]
  uniques := [[.confirmationId]]
  checks := [
    .oneOf .purpose ["apply","recovery_retry"],
    .atLeast .digestVersion 1,
    .oneOf .requiredMethod ["acknowledge","typed"],
    .oneOf .method ["acknowledge","typed"],
    .equals .source "unauthenticated_request",
    .same (.equals .method "typed") (.present .typedStatement)]

def runConfirmationsInto : List Column := [.confirmationId,.runId,.purpose,.previewId,.previewDigest,.digestVersion,
  .requiredMethod,.method,.typedStatement,.policy,.source,.satisfiedAt,.consumedAt,.consumedByAttemptId]

def runConfirmationsSelect : List (Supply Table Column) := [.column .confirmationId,.column .runId,.column .purpose,
  .column .previewId,.column .previewDigest,.column .digestVersion,.column .requiredMethod,.column .method,
  .value .null,.column .policy,.column .source,.column .satisfiedAt,.column .consumedAt,.column .consumedByAttemptId]

def runCheckpoints : TableDef Table Column where
  columns := [.required .text .checkpointId,.required .text .runId,.required .text .previewId,.required .text .hostId,
    .required .text .objectId,.required .text .intentId,.required .integer .intentVersion,.required .text .field,
    .required .text .valueType,.required .integer .beforeValue,.required .integer .desiredValue,
    .required .text .observationId,.required .text .observedAt,.required .text .protectionManagementPath,
    .nullable .text .protectionEvidenceId,.orElse .text .executionCorrelation (.text "\x7b\x7d"),
    .required .text .armedAt]
  references := [⟨.runId,.runs,.runId⟩,⟨.previewId,.runPreviews,.previewId⟩,⟨.hostId,.hosts,.hostId⟩,
    ⟨.objectId,.objects,.objectId⟩,⟨.intentId,.intents,.intentId⟩,⟨.observationId,.observations,.observationId⟩,
    ⟨.protectionEvidenceId,.managementPathObservations,.observationId⟩]
  uniques := [[.checkpointId],[.runId]]
  checks := [
    .atLeast .intentVersion 1,
    .oneOf .valueType ["boolean","integer"],
    .oneOf .protectionManagementPath ["not_on_management_path","on_management_path"],
    .disagree .beforeValue .desiredValue]

def runCheckpointsInto : List Column := [.checkpointId,.runId,.previewId,.hostId,.objectId,.intentId,.intentVersion,
  .field,.valueType,.beforeValue,.desiredValue,.observationId,.observedAt,.protectionManagementPath,
  .protectionEvidenceId,.executionCorrelation,.armedAt]

def runCheckpointsSelect : List (Supply Table Column) := [.column .checkpointId,.column .runId,.column .previewId,
  .column .hostId,.column .objectId,.column .intentId,.column .intentVersion,.column .field,.column .valueType,
  .column .beforeValue,.column .desiredValue,.column .observationId,.column .observedAt,
  .column .protectionManagementPath,.column .protectionEvidenceId,.column .executionCorrelation,.column .armedAt]

def runGuards : TableDef Table Column where
  columns := [.required .text .guardId,.required .text .runId,.required .text .previewId,
    .required .text .checkpointId,.required .text .hostId,.required .text .objectId,
    .required .text .protectionManagementPath,.required .text .protectionEvidenceId,.required .text .confirmationId,
    .required .integer .windowS,.required .text .armBeganAt,.nullable .text .armedAt,.nullable .text .expiresAt,
    .nullable .text .holderId,.required .text .reversalAttemptId,.nullable .text .keptAt,
    .nullable .text .keptEvidenceId,.nullable .text .settledAt,.nullable .text .settledPhase,
    .nullable .text .settledReason,.nullable .text .firedAt,.nullable .text .reversalOutcome,
    .nullable .text .reversalReason,.orElse .text .settledDetail (.text "\x7b\x7d")]
  references := [⟨.runId,.runs,.runId⟩,⟨.previewId,.runPreviews,.previewId⟩,
    ⟨.checkpointId,.runCheckpoints,.checkpointId⟩,⟨.hostId,.hosts,.hostId⟩,⟨.objectId,.objects,.objectId⟩,
    ⟨.protectionEvidenceId,.managementPathObservations,.observationId⟩,
    ⟨.confirmationId,.runConfirmations,.confirmationId⟩,⟨.keptEvidenceId,.managementPathObservations,.observationId⟩]
  uniques := [[.guardId],[.runId],[.checkpointId],[.reversalAttemptId]]
  checks := [
    .equals .protectionManagementPath "on_management_path",
    .moreThan .windowS 0,
    .or (.absent .settledPhase) (.oneOf .settledPhase ["disarmed","fired","lost","unreachable"]),
    .or (.absent .reversalOutcome) (.oneOf .reversalOutcome ["not_written","written","write_unknown"]),
    .same (.present .armedAt) (.present .expiresAt),
    .same (.present .armedAt) (.present .holderId),
    .same (.present .settledAt) (.present .settledPhase),
    .same (.equals .settledPhase "fired") (.present .firedAt),
    .same (.equals .settledPhase "fired") (.present .reversalOutcome),
    .or (.differs .settledPhase "fired") (.present .armedAt),
    .same (.present .keptAt) (.present .keptEvidenceId),
    .or (.absent .keptAt) (.equals .settledPhase "disarmed"),
    .or (.absent .keptAt) (.present .armedAt)]

def idxRunGuardsObject : Index Table Column where
  table := .runGuards
  columns := [.objectId,.armBeganAt]
  unique := false
  filter := none

def runGuardsIdentityIsImmutable : Trigger Table Column where
  table := .runGuards
  event := .update [.guardId,.runId,.previewId,.checkpointId,.hostId,.objectId,.protectionManagementPath,
    .protectionEvidenceId,.confirmationId,.windowS,.armBeganAt,.reversalAttemptId]
  condition := .always

def runGuardsSettleOnce : Trigger Table Column where
  table := .runGuards
  event := .update []
  condition := .holds (.present (old .settledAt))

def runGuardsAreNotDeleted : Trigger Table Column where
  table := .runGuards
  event := .delete
  condition := .always

def runGuardsRequireTheTypedAuthority : Trigger Table Column where
  table := .runGuards
  event := .insert
  condition := .not (.any .runConfirmations (.all (.agree (first .confirmationId) (new .confirmationId))
    [.agree (first .runId) (new .runId),.agree (first .previewId) (new .previewId),.equals (first .purpose) "apply",
    .equals (first .method) "typed"]))

def runGuardsCiteTheirOwnEvidenceOnInsert : Trigger Table Column where
  table := .runGuards
  event := .insert
  condition := .any .managementPathObservations (.and (.agree (first .observationId) (new .protectionEvidenceId))
    (.disagree (first .hostId) (new .hostId)))

def runGuardsKeepEvidenceIsTheirOwn : Trigger Table Column where
  table := .runGuards
  event := .update [.keptEvidenceId]
  condition := .and (.holds (.present (new .keptEvidenceId))) (.any .managementPathObservations
    (.and (.agree (first .observationId) (new .keptEvidenceId)) (.disagree (first .hostId) (new .hostId))))

def changesOnTheManagementPathRequireAnArmedGuard : Trigger Table Column where
  table := .changes
  event := .insert
  condition := .and (.and (.holds (.present (new .checkpointId)))
    (.any .runCheckpoints (.and (.agree (first .checkpointId) (new .checkpointId))
    (.equals (first .protectionManagementPath) "on_management_path"))))
    (.not (.any .runGuards (.all (.agree (first .runId) (new .runId))
    [.agree (first .checkpointId) (new .checkpointId),.present (first .armedAt),.absent (first .settledAt)])))

def runEvents : TableDef Table Column where
  columns := [.required .text .eventId,.required .text .runId,.nullable .text .changeId,.required .integer .sequence,
    .required .text .event,.nullable .text .stateFrom,.nullable .text .stateTo,.required .text .occurredAt,
    .orElse .text .detail (.text "\x7b\x7d")]
  references := [⟨.runId,.runs,.runId⟩,⟨.changeId,.changes,.changeId⟩]
  uniques := [[.eventId],[.runId,.sequence]]
  checks := [
    .atLeast .sequence 1,
    .oneOf .event ["run_planned","run_cancelled","confirmation_satisfied","confirmation_required",
      "confirmation_consumed","apply_refused","arming_started","checkpoint_written","arming_failed",
      "target_correlated","target_correlation_failed","guard_armed","guard_arming_failed","write_boundary_crossed",
      "mutation_dispatched","mutation_result","verification_started","verification_result","rollback_started",
      "rollback_mutation_dispatched","rollback_mutation_result","rollback_verification_started",
      "rollback_verification_result","guard_hold_started","guard_connection_proved","guard_keep_refused",
      "guard_settled","recovery_required","run_finished","recovery_retry_started","recovery_evidence_result",
      "recovery_confirmation_satisfied","recovery_confirmation_consumed","recovery_mutation_dispatched",
      "recovery_mutation_result","recovery_verification_result","recovery_retry_finished","recovery_resolved",
      "recovery_hold_released"]]

def runEventsInto : List Column := [.eventId,.runId,.changeId,.sequence,.event,.stateFrom,.stateTo,.occurredAt,
  .detail]

def runEventsSelect : List (Supply Table Column) := [.column .eventId,.column .runId,.column .changeId,
  .column .sequence,.column .event,.column .stateFrom,.column .stateTo,.column .occurredAt,.column .detail]

def migration : Migration Table Column Name where
  version := 10
  suspendsForeignKeys := true
  statements := [.dropTrigger .recoveryMutationNamesTheAuthoritySpentOnItOnInsert,
    .dropTrigger .recoveryMutationNamesTheAuthoritySpentOnItOnUpdate,
    .dropTrigger .changesRequireAConsumedConfirmation,.dropTrigger .changesCheckpointBelongsToRun,
    .dropTrigger .runConfirmationsMatchTheRunsPreview,.dropTrigger .runConfirmationsAreConsumedOnce,
    .dropTrigger .runCheckpointsAreImmutable,.dropTrigger .runPreviewsAreImmutable,
    .dropTrigger .runsIntentBelongsToObject,.dropTrigger .runsObservationBelongsToObject,
    .dropTrigger .runsIdentityIsImmutable,.dropTrigger .runsProtectionEvidenceBelongsToHost,
    .dropTrigger .runEventsAreAppendOnly,.dropTrigger .runEventsAreNotDeleted,.dropIndex .idxRunEventsRun,
    .dropIndex .idxRunsHostCreated,.dropIndex .idxRunsObjectCreated,.dropIndex .oneApplyConfirmationPerRun,
    .dropIndex .oneOutstandingRecoveryConfirmationPerRun,
    .rebuild .runPreviews runPreviews runPreviewsInto runPreviewsSelect,
    .createTrigger .runPreviewsAreImmutable WriteBoundary.runPreviewsAreImmutable,
    .rebuild .runs runs runsInto runsSelect,.createIndex .idxRunsHostCreated WriteBoundary.idxRunsHostCreated,
    .createIndex .idxRunsObjectCreated WriteBoundary.idxRunsObjectCreated,
    .createTrigger .runsIntentBelongsToObject Docker.runsIntentBelongsToObject,
    .createTrigger .runsObservationBelongsToObject WriteBoundary.runsObservationBelongsToObject,
    .createTrigger .runsIdentityIsImmutable WriteBoundary.runsIdentityIsImmutable,
    .createTrigger .runsProtectionEvidenceBelongsToHost WriteBoundary.runsProtectionEvidenceBelongsToHost,
    .rebuild .runConfirmations runConfirmations runConfirmationsInto runConfirmationsSelect,
    .createIndex .oneApplyConfirmationPerRun Recovery.oneApplyConfirmationPerRun,
    .createIndex .oneOutstandingRecoveryConfirmationPerRun Recovery.oneOutstandingRecoveryConfirmationPerRun,
    .createTrigger .runConfirmationsMatchTheRunsPreview WriteBoundary.runConfirmationsMatchTheRunsPreview,
    .createTrigger .runConfirmationsAreConsumedOnce WriteBoundary.runConfirmationsAreConsumedOnce,
    .rebuild .runCheckpoints runCheckpoints runCheckpointsInto runCheckpointsSelect,
    .createTrigger .runCheckpointsAreImmutable WriteBoundary.runCheckpointsAreImmutable,
    .createTable .runGuards runGuards,.createIndex .idxRunGuardsObject idxRunGuardsObject,
    .createTrigger .runGuardsIdentityIsImmutable runGuardsIdentityIsImmutable,
    .createTrigger .runGuardsSettleOnce runGuardsSettleOnce,
    .createTrigger .runGuardsAreNotDeleted runGuardsAreNotDeleted,
    .createTrigger .runGuardsRequireTheTypedAuthority runGuardsRequireTheTypedAuthority,
    .createTrigger .runGuardsCiteTheirOwnEvidenceOnInsert runGuardsCiteTheirOwnEvidenceOnInsert,
    .createTrigger .runGuardsKeepEvidenceIsTheirOwn runGuardsKeepEvidenceIsTheirOwn,
    .createTrigger .changesCheckpointBelongsToRun Docker.changesCheckpointBelongsToRun,
    .createTrigger .changesRequireAConsumedConfirmation Recovery.changesRequireAConsumedConfirmation,
    .createTrigger .changesOnTheManagementPathRequireAnArmedGuard changesOnTheManagementPathRequireAnArmedGuard,
    .rebuild .runEvents runEvents runEventsInto runEventsSelect,
    .createIndex .idxRunEventsRun WriteBoundary.idxRunEventsRun,
    .createTrigger .runEventsAreAppendOnly WriteBoundary.runEventsAreAppendOnly,
    .createTrigger .runEventsAreNotDeleted WriteBoundary.runEventsAreNotDeleted,
    .createTrigger .recoveryMutationNamesTheAuthoritySpentOnItOnInsert Recovery.recoveryMutationNamesTheAuthoritySpentOnItOnInsert,
    .createTrigger .recoveryMutationNamesTheAuthoritySpentOnItOnUpdate Recovery.recoveryMutationNamesTheAuthoritySpentOnItOnUpdate]

end ConnectionGuard
end Migrations
end LocalPlane
