import LocalPlane.SqlMigrations
import LocalPlane.WriteBoundaryTables

/-!
# The eighth migration

Docker as a subsystem: five tables are rebuilt, and a plan may carry out an action.
-/

set_option linter.dupNamespace false

namespace LocalPlane
namespace Migrations
namespace Docker

open Sql

def objects : TableDef Table Column where
  columns := [.required .text .objectId,.required .text .hostId,.required .text .kind,.required .text .identityBasis,
    .required .text .identityValue,.required .text .identityConfidence,.required .text .displayName,
    .required .text .managementState,.required .text .managementReason,.required .text .firstSeenAt,
    .required .text .lastSeenAt,.nullable .text .activeIntentId]
  references := [⟨.hostId,.hosts,.hostId⟩,⟨.activeIntentId,.intents,.intentId⟩]
  uniques := [[.objectId],[.hostId,.kind,.identityBasis,.identityValue]]
  checks := [
    .oneOf .identityBasis ["permanent_mac","device_path","kernel_name","provider_id"],
    .oneOf .identityConfidence ["high","low"],
    .oneOf .managementState ["observe_only","observed","managed"],
    .same (.equals .managementState "managed") (.present .activeIntentId)]

def objectsInto : List Column := [.objectId,.hostId,.kind,.identityBasis,.identityValue,.identityConfidence,
  .displayName,.managementState,.managementReason,.firstSeenAt,.lastSeenAt,.activeIntentId]

def objectsSelect : List (Supply Table Column) := [.column .objectId,.column .hostId,.column .kind,
  .column .identityBasis,.column .identityValue,.column .identityConfidence,.column .displayName,
  .column .managementState,.column .managementReason,.column .firstSeenAt,.column .lastSeenAt,.column .activeIntentId]

def runPreviews : TableDef Table Column where
  columns := [.required .text .previewId,.required .text .previewDigest,.required .integer .digestVersion,
    .required .text .operation,.required .text .changeKind,.nullable .text .field,.nullable .text .valueType,
    .nullable .integer .currentValue,.nullable .integer .desiredValue,.nullable .text .action,
    .nullable .text .observedState,.nullable .text .expectedState,.nullable .text .intentId,
    .nullable .integer .intentVersion,.nullable .text .intentCapability,.nullable .text .intentProvider,
    .required .text .observationId,.required .text .sweepId,.required .text .observedAt,
    .nullable .text .driftFindingId,.required .text .ownershipState,.required .text .ownershipReason,
    .orElse .text .ownershipClaims (.text "[]"),.orElse .text .ownershipGaps (.text "[]"),
    .orElse .text .providerReadings (.text "\x7b\x7d"),.required .text .protectionStatus,
    .orElse .text .protectionReasons (.text "[]"),.orElse .text .protectionUnresolved (.text "[]"),
    .required .text .protectionManagementPath,.required .text .protectionReason,
    .orElse .text .protectionMissingEvidence (.text "[]"),.nullable .text .protectionEvidenceId,
    .nullable .text .protectionEvidenceObservedAt,.required .text .riskTier,.orElse .text .riskFactors (.text "[]"),
    .required .integer .confirmationRequired,.required .text .confirmationMethod,.required .text .confirmationSource,
    .orElse .text .confirmationReasons (.text "[]"),.required .text .confirmationPolicy,
    .required .integer .confirmationTokenIssued,.required .text .executionAvailability,
    .required .text .executionEligibility,.orElse .text .executionBlockers (.text "[]"),
    .nullable .text .executionProvider,.required .text .requiredCapability,.required .integer .capabilityDeclared,
    .required .text .recoveryMode,.required .integer .recoveryRollbackPossible,.required .integer .recoveryArmed,
    .required .text .recoveryGuarantee,.required .text .recoveryReason,.required .text .verificationCapability,
    .required .text .verificationProvider,.required .text .verificationCondition,
    .required .integer .verificationExecuted,.required .text .publishedAt]
  references := [⟨.intentId,.intents,.intentId⟩,⟨.observationId,.observations,.observationId⟩,
    ⟨.sweepId,.observationSweeps,.sweepId⟩,⟨.driftFindingId,.findings,.findingId⟩,
    ⟨.protectionEvidenceId,.managementPathObservations,.observationId⟩]
  uniques := [[.previewId]]
  checks := [
    .atLeast .digestVersion 1,
    .oneOf .operation ["network.interface.reconcile_mtu","docker.container.start","docker.container.stop",
      "docker.container.restart"],
    .oneOf .changeKind ["field","action"],
    .or (.absent .valueType) (.oneOf .valueType ["boolean","integer"]),
    .or (.absent .intentVersion) (.atLeast .intentVersion 1),
    .oneOf .protectionStatus ["protected","clear","unknown"],
    .oneOf .protectionManagementPath ["on_management_path","not_on_management_path","unknown"],
    .oneOf .riskTier ["low","medium","high"],
    .oneOfNumbers .confirmationRequired [0,1],
    .oneOf .confirmationMethod ["none","acknowledge","typed"],
    .oneOf .confirmationSource ["policy","operation"],
    .equalsNumber .confirmationTokenIssued 0,
    .oneOf .executionAvailability ["available","unavailable","not_implemented"],
    .oneOf .executionEligibility ["eligible","blocked"],
    .oneOfNumbers .capabilityDeclared [0,1],
    .oneOf .recoveryMode ["auto","operator","none"],
    .oneOfNumbers .recoveryRollbackPossible [0,1],
    .equalsNumber .recoveryArmed 0,
    .equalsNumber .verificationExecuted 0,
    .or (.differs .changeKind "field") (.all (.present .field)
      [.present .valueType,.present .currentValue,.present .desiredValue,.disagree .currentValue .desiredValue,
      .or (.differs .valueType "boolean") (.and (.oneOfNumbers .currentValue [0,1])
      (.oneOfNumbers .desiredValue [0,1])),.present .intentId,.present .intentVersion,.present .intentCapability,
      .present .intentProvider,.absent .action,.absent .observedState,.absent .expectedState]),
    .or (.differs .changeKind "action") (.all (.present .action)
      [.present .observedState,.present .expectedState,.absent .field,.absent .valueType,.absent .currentValue,
      .absent .desiredValue,.absent .intentId,.absent .intentVersion,.absent .intentCapability,
      .absent .intentProvider,.absent .driftFindingId]),
    .or (.absent .protectionEvidenceId) (.present .protectionEvidenceObservedAt)]

def runPreviewsInto : List Column := [.previewId,.previewDigest,.digestVersion,.operation,.changeKind,.field,
  .valueType,.currentValue,.desiredValue,.action,.observedState,.expectedState,.intentId,.intentVersion,
  .intentCapability,.intentProvider,.observationId,.sweepId,.observedAt,.driftFindingId,.ownershipState,
  .ownershipReason,.ownershipClaims,.ownershipGaps,.providerReadings,.protectionStatus,.protectionReasons,
  .protectionUnresolved,.protectionManagementPath,.protectionReason,.protectionMissingEvidence,.protectionEvidenceId,
  .protectionEvidenceObservedAt,.riskTier,.riskFactors,.confirmationRequired,.confirmationMethod,.confirmationSource,
  .confirmationReasons,.confirmationPolicy,.confirmationTokenIssued,.executionAvailability,.executionEligibility,
  .executionBlockers,.executionProvider,.requiredCapability,.capabilityDeclared,.recoveryMode,
  .recoveryRollbackPossible,.recoveryArmed,.recoveryGuarantee,.recoveryReason,.verificationCapability,
  .verificationProvider,.verificationCondition,.verificationExecuted,.publishedAt]

def runPreviewsSelect : List (Supply Table Column) := [.column .previewId,.column .previewDigest,
  .column .digestVersion,.column .operation,.value (.text "field"),.column .field,.column .valueType,
  .column .currentValue,.column .desiredValue,.value .null,.value .null,.value .null,.column .intentId,
  .column .intentVersion,.column .intentCapability,.column .intentProvider,.column .observationId,.column .sweepId,
  .column .observedAt,.column .driftFindingId,.column .ownershipState,.column .ownershipReason,
  .column .ownershipClaims,.column .ownershipGaps,.column .providerReadings,.column .protectionStatus,
  .column .protectionReasons,.column .protectionUnresolved,.column .protectionManagementPath,
  .column .protectionReason,.column .protectionMissingEvidence,.column .protectionEvidenceId,
  .column .protectionEvidenceObservedAt,.column .riskTier,.column .riskFactors,.column .confirmationRequired,
  .column .confirmationMethod,.column .confirmationSource,.column .confirmationReasons,.column .confirmationPolicy,
  .column .confirmationTokenIssued,.column .executionAvailability,.column .executionEligibility,
  .column .executionBlockers,.column .executionProvider,.column .requiredCapability,.column .capabilityDeclared,
  .column .recoveryMode,.column .recoveryRollbackPossible,.column .recoveryArmed,.column .recoveryGuarantee,
  .column .recoveryReason,.column .verificationCapability,.column .verificationProvider,
  .column .verificationCondition,.column .verificationExecuted,.column .publishedAt]

def runs : TableDef Table Column where
  columns := [.required .text .runId,.required .text .hostId,.required .text .objectId,.required .text .operation,
    .required .text .state,.required .text .previewId,.orElse .text .hostEffect (.text "none"),
    .required .text .createdAt,.nullable .text .cancelledAt,.nullable .text .finishedAt]
  references := [⟨.hostId,.hosts,.hostId⟩,⟨.objectId,.objects,.objectId⟩,⟨.previewId,.runPreviews,.previewId⟩]
  uniques := [[.runId],[.previewId]]
  checks := [
    .oneOf .operation ["network.interface.reconcile_mtu","docker.container.start","docker.container.stop",
      "docker.container.restart"],
    .oneOf .state ["preview","awaiting_confirmation","arming","applying","verifying","succeeded","failed",
      "rolling_back","rollback_verifying","rolled_back","recovery_required","cancelled"],
    .oneOf .hostEffect ["none","written","write_unknown"],
    .same (.equals .state "cancelled") (.present .cancelledAt),
    .or (.equals .hostEffect "none") (.oneOf .state ["applying","verifying","succeeded","rolling_back",
      "rollback_verifying","rolled_back","recovery_required"]),
    .or (.differs .state "succeeded") (.equals .hostEffect "written"),
    .or (.differs .state "failed") (.equals .hostEffect "none"),
    .or (.differs .state "rolled_back") (.oneOf .hostEffect ["written","write_unknown"]),
    .or (.differs .state "recovery_required") (.oneOf .hostEffect ["written","write_unknown"])]

def runsInto : List Column := [.runId,.hostId,.objectId,.operation,.state,.previewId,.hostEffect,.createdAt,
  .cancelledAt,.finishedAt]

def runsSelect : List (Supply Table Column) := [.column .runId,.column .hostId,.column .objectId,.column .operation,
  .column .state,.column .previewId,.column .hostEffect,.column .createdAt,.column .cancelledAt,.column .finishedAt]

def changes : TableDef Table Column where
  columns := [.required .text .changeId,.required .text .runId,.required .text .previewId,
    .nullable .text .checkpointId,.required .text .hostId,.required .text .objectId,.required .text .operation,
    .required .text .changeKind,.nullable .text .field,.nullable .text .valueType,.nullable .integer .beforeValue,
    .nullable .integer .desiredValue,.nullable .text .action,.nullable .text .observedState,
    .nullable .text .expectedState,.orElse .text .executionCorrelation (.text "\x7b\x7d"),.required .text .createdAt,
    .required .text .applyAttemptId,.nullable .text .dispatchBeganAt,.nullable .text .mutationOutcome,
    .nullable .text .mutationReason,.nullable .text .mutationProvider,.nullable .text .mutationMethod,
    .orElse .text .mutationDetail (.text "\x7b\x7d"),.nullable .text .settledAt,
    .orElse .text .hostEffect (.text "none"),.orElse .text .verificationOutcome (.text "not_attempted"),
    .nullable .text .verificationObservationId,.nullable .integer .verificationObservedValue,
    .nullable .text .verificationObservedState,.nullable .text .verificationReason,
    .orElse .integer .rollbackRequired (.integer 0),.nullable .text .rollbackAttemptId,
    .nullable .text .rollbackDispatchBeganAt,.nullable .text .rollbackOutcome,.nullable .text .rollbackReason,
    .orElse .text .rollbackDetail (.text "\x7b\x7d"),
    .orElse .text .rollbackVerificationOutcome (.text "not_attempted"),
    .nullable .text .rollbackVerificationObservationId,.nullable .integer .rollbackVerificationObservedValue,
    .orElse .text .result (.text "in_flight"),.nullable .text .recoveryReason,.nullable .text .finishedAt]
  references := [⟨.runId,.runs,.runId⟩,⟨.previewId,.runPreviews,.previewId⟩,
    ⟨.checkpointId,.runCheckpoints,.checkpointId⟩,⟨.hostId,.hosts,.hostId⟩,⟨.objectId,.objects,.objectId⟩,
    ⟨.verificationObservationId,.observations,.observationId⟩,
    ⟨.rollbackVerificationObservationId,.observations,.observationId⟩]
  uniques := [[.changeId],[.runId],[.applyAttemptId],[.rollbackAttemptId]]
  checks := [
    .oneOf .operation ["network.interface.reconcile_mtu","docker.container.start","docker.container.stop",
      "docker.container.restart"],
    .oneOf .changeKind ["field","action"],
    .or (.absent .valueType) (.oneOf .valueType ["boolean","integer"]),
    .or (.absent .mutationOutcome) (.oneOf .mutationOutcome ["not_written","written","write_unknown"]),
    .oneOf .hostEffect ["none","written","write_unknown"],
    .oneOf .verificationOutcome ["not_attempted","verified","mismatch","value_unreadable","observation_unavailable",
      "source_incompatible","target_absent"],
    .oneOfNumbers .rollbackRequired [0,1],
    .or (.absent .rollbackOutcome) (.oneOf .rollbackOutcome ["not_written","written","write_unknown"]),
    .oneOf .rollbackVerificationOutcome ["not_attempted","verified","mismatch","value_unreadable",
      "observation_unavailable","source_incompatible","target_absent"],
    .oneOf .result ["in_flight","succeeded","failed","rolled_back","recovery_required"],
    .or (.differs .changeKind "field") (.all (.present .field)
      [.present .valueType,.present .beforeValue,.present .desiredValue,.disagree .beforeValue .desiredValue,
      .present .checkpointId,.absent .action,.absent .observedState,.absent .expectedState,
      .absent .verificationObservedState]),
    .or (.differs .changeKind "action") (.all (.present .action)
      [.present .observedState,.present .expectedState,.absent .field,.absent .valueType,.absent .beforeValue,
      .absent .desiredValue,.absent .checkpointId,.absent .verificationObservedValue,
      .equalsNumber .rollbackRequired 0,.absent .rollbackAttemptId,.absent .rollbackDispatchBeganAt,
      .absent .rollbackOutcome,.absent .rollbackReason,.equals .rollbackVerificationOutcome "not_attempted",
      .absent .rollbackVerificationObservationId,.absent .rollbackVerificationObservedValue,
      .differs .result "rolled_back"]),
    .any (.absent .mutationOutcome) [.equals .mutationOutcome "not_written",.present .dispatchBeganAt],
    .any (.and (.absent .mutationOutcome) (.equals .hostEffect "none"))
      [.and (.equals .mutationOutcome "not_written") (.equals .hostEffect "none"),
      .and (.equals .mutationOutcome "written") (.equals .hostEffect "written"),
      .and (.equals .mutationOutcome "write_unknown") (.equals .hostEffect "write_unknown")],
    .or (.differs .result "failed") (.and (.equals .mutationOutcome "not_written") (.equals .hostEffect "none")),
    .or (.differs .result "succeeded") (.and (.equals .mutationOutcome "written")
      (.equals .verificationOutcome "verified")),
    .or (.differs .result "rolled_back") (.equals .rollbackVerificationOutcome "verified"),
    .or (.differs .result "recovery_required") (.present .recoveryReason),
    .or (.differs .verificationOutcome "verified") (.present .verificationObservationId),
    .or (.differs .rollbackVerificationOutcome "verified") (.present .rollbackVerificationObservationId)]

def changesInto : List Column := [.changeId,.runId,.previewId,.checkpointId,.hostId,.objectId,.operation,.changeKind,
  .field,.valueType,.beforeValue,.desiredValue,.action,.observedState,.expectedState,.executionCorrelation,.createdAt,
  .applyAttemptId,.dispatchBeganAt,.mutationOutcome,.mutationReason,.mutationProvider,.mutationMethod,.mutationDetail,
  .settledAt,.hostEffect,.verificationOutcome,.verificationObservationId,.verificationObservedValue,
  .verificationObservedState,.verificationReason,.rollbackRequired,.rollbackAttemptId,.rollbackDispatchBeganAt,
  .rollbackOutcome,.rollbackReason,.rollbackDetail,.rollbackVerificationOutcome,.rollbackVerificationObservationId,
  .rollbackVerificationObservedValue,.result,.recoveryReason,.finishedAt]

def changesSelect : List (Supply Table Column) := [.column .changeId,.column .runId,.column .previewId,
  .column .checkpointId,.column .hostId,.column .objectId,.column .operation,.value (.text "field"),.column .field,
  .column .valueType,.column .beforeValue,.column .desiredValue,.value .null,.value .null,.value .null,
  .found .runCheckpoints .checkpointId .checkpointId .executionCorrelation (.text "\x7b\x7d"),.column .createdAt,
  .column .applyAttemptId,.column .dispatchBeganAt,.column .mutationOutcome,.column .mutationReason,
  .column .mutationProvider,.column .mutationMethod,.column .mutationDetail,.column .settledAt,.column .hostEffect,
  .column .verificationOutcome,.column .verificationObservationId,.column .verificationObservedValue,.value .null,
  .column .verificationReason,.column .rollbackRequired,.column .rollbackAttemptId,.column .rollbackDispatchBeganAt,
  .column .rollbackOutcome,.column .rollbackReason,.column .rollbackDetail,.column .rollbackVerificationOutcome,
  .column .rollbackVerificationObservationId,.column .rollbackVerificationObservedValue,.column .result,
  .column .recoveryReason,.column .finishedAt]

def runEvents : TableDef Table Column where
  columns := [.required .text .eventId,.required .text .runId,.nullable .text .changeId,.required .integer .sequence,
    .required .text .event,.nullable .text .stateFrom,.nullable .text .stateTo,.required .text .occurredAt,
    .orElse .text .detail (.text "\x7b\x7d")]
  references := [⟨.runId,.runs,.runId⟩,⟨.changeId,.changes,.changeId⟩]
  uniques := [[.eventId],[.runId,.sequence]]
  checks := [
    .atLeast .sequence 1,
    .oneOf .event ["run_planned","run_cancelled","confirmation_satisfied","confirmation_required",
      "confirmation_consumed","apply_refused","arming_started","checkpoint_written","arming_failed",
      "target_correlated","target_correlation_failed","write_boundary_crossed","mutation_dispatched",
      "mutation_result","verification_started","verification_result","rollback_started",
      "rollback_mutation_dispatched","rollback_mutation_result","rollback_verification_started",
      "rollback_verification_result","recovery_required","run_finished"]]

def runEventsInto : List Column := [.eventId,.runId,.changeId,.sequence,.event,.stateFrom,.stateTo,.occurredAt,
  .detail]

def runEventsSelect : List (Supply Table Column) := [.column .eventId,.column .runId,.column .changeId,
  .column .sequence,.column .event,.column .stateFrom,.column .stateTo,.column .occurredAt,.column .detail]

def runsIntentBelongsToObject : Trigger Table Column where
  table := .runs
  event := .insert
  condition := .and (.any .runPreviews (.and (.agree (first .previewId) (new .previewId))
    (.present (first .intentId)))) (.not (.anyJoin .runPreviews .intents
    (.all (.agree (second .intentId) (first .intentId)) [.agree (first .previewId) (new .previewId),
    .agree (second .objectId) (new .objectId)])))

def changesIdentityIsImmutable : Trigger Table Column where
  table := .changes
  event := .update [.changeId,.runId,.previewId,.checkpointId,.hostId,.objectId,.operation,.changeKind,.field,
    .valueType,.beforeValue,.desiredValue,.action,.observedState,.expectedState,.executionCorrelation,.createdAt,
    .applyAttemptId]
  condition := .always

def changesCheckpointBelongsToRun : Trigger Table Column where
  table := .changes
  event := .insert
  condition := .and (.holds (.present (new .checkpointId))) (.not
    (.any .runCheckpoints (.and (.agree (first .checkpointId) (new .checkpointId))
    (.agree (first .runId) (new .runId)))))

def migration : Migration Table Column Name where
  version := 8
  suspendsForeignKeys := true
  statements := [.dropTrigger .objectsActiveIntentBelongsToObjectInsert,
    .dropTrigger .objectsActiveIntentBelongsToObjectUpdate,.dropIndex .idxObjectsHostKind,
    .dropTrigger .runPreviewsAreImmutable,.dropTrigger .runsIntentBelongsToObject,
    .dropTrigger .runsObservationBelongsToObject,.dropTrigger .runsIdentityIsImmutable,
    .dropTrigger .runsProtectionEvidenceBelongsToHost,.dropIndex .idxRunsHostCreated,.dropIndex .idxRunsObjectCreated,
    .dropTrigger .changesIdentityIsImmutable,.dropTrigger .changesRequireAConsumedConfirmation,
    .dropIndex .idxChangesHostCreated,.dropIndex .idxChangesObjectCreated,
    .dropTrigger .runConfirmationsMatchTheRunsPreview,.dropTrigger .runEventsAreAppendOnly,
    .dropTrigger .runEventsAreNotDeleted,.dropIndex .idxRunEventsRun,
    .rebuild .objects objects objectsInto objectsSelect,
    .rebuild .runPreviews runPreviews runPreviewsInto runPreviewsSelect,.rebuild .runs runs runsInto runsSelect,
    .rebuild .changes changes changesInto changesSelect,.rebuild .runEvents runEvents runEventsInto runEventsSelect,
    .createTrigger .objectsActiveIntentBelongsToObjectInsert Initial.objectsActiveIntentBelongsToObjectInsert,
    .createTrigger .objectsActiveIntentBelongsToObjectUpdate Initial.objectsActiveIntentBelongsToObjectUpdate,
    .createTrigger .runPreviewsAreImmutable WriteBoundary.runPreviewsAreImmutable,
    .createTrigger .runsIntentBelongsToObject runsIntentBelongsToObject,
    .createTrigger .runsObservationBelongsToObject WriteBoundary.runsObservationBelongsToObject,
    .createTrigger .runsIdentityIsImmutable WriteBoundary.runsIdentityIsImmutable,
    .createTrigger .runsProtectionEvidenceBelongsToHost WriteBoundary.runsProtectionEvidenceBelongsToHost,
    .createTrigger .runConfirmationsMatchTheRunsPreview WriteBoundary.runConfirmationsMatchTheRunsPreview,
    .createTrigger .changesIdentityIsImmutable changesIdentityIsImmutable,
    .createTrigger .runEventsAreAppendOnly WriteBoundary.runEventsAreAppendOnly,
    .createTrigger .runEventsAreNotDeleted WriteBoundary.runEventsAreNotDeleted,
    .createTrigger .changesCheckpointBelongsToRun changesCheckpointBelongsToRun,
    .createIndex .idxObjectsHostKind Initial.idxObjectsHostKind,
    .createIndex .idxRunsHostCreated WriteBoundary.idxRunsHostCreated,
    .createIndex .idxRunsObjectCreated WriteBoundary.idxRunsObjectCreated,
    .createIndex .idxChangesHostCreated WriteBoundary.idxChangesHostCreated,
    .createIndex .idxChangesObjectCreated WriteBoundary.idxChangesObjectCreated,
    .createIndex .idxRunEventsRun WriteBoundary.idxRunEventsRun,
    .createTrigger .changesRequireAConsumedConfirmation WriteBoundary.changesRequireAConsumedConfirmation]

end Docker
end Migrations
end LocalPlane
