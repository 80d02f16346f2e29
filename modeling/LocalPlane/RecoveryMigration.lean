import LocalPlane.DockerMigration

/-!
# The ninth migration

Recovery: confirmations have a purpose, and attempts to recover are recorded.
-/

set_option linter.dupNamespace false

namespace LocalPlane
namespace Migrations
namespace Recovery

open Sql

def runConfirmations : TableDef Table Column where
  columns := [.required .text .confirmationId,.required .text .runId,.required .text .purpose,
    .required .text .previewId,.required .text .previewDigest,.required .integer .digestVersion,
    .required .text .requiredMethod,.required .text .method,.required .text .policy,.required .text .source,
    .required .text .satisfiedAt,.nullable .text .consumedAt,.nullable .text .consumedByAttemptId]
  references := [⟨.runId,.runs,.runId⟩,⟨.previewId,.runPreviews,.previewId⟩]
  uniques := [[.confirmationId]]
  checks := [
    .oneOf .purpose ["apply","recovery_retry"],
    .atLeast .digestVersion 1,
    .oneOf .requiredMethod ["acknowledge","typed"],
    .oneOf .method ["acknowledge","typed"],
    .equals .source "unauthenticated_request"]

def runConfirmationsInto : List Column := [.confirmationId,.runId,.purpose,.previewId,.previewDigest,.digestVersion,
  .requiredMethod,.method,.policy,.source,.satisfiedAt,.consumedAt,.consumedByAttemptId]

def runConfirmationsSelect : List (Supply Table Column) := [.column .confirmationId,.column .runId,
  .value (.text "apply"),.column .previewId,.column .previewDigest,.column .digestVersion,.column .requiredMethod,
  .column .method,.column .policy,.column .source,.column .satisfiedAt,.column .consumedAt,
  .column .consumedByAttemptId]

def oneApplyConfirmationPerRun : Index Table Column where
  table := .runConfirmations
  columns := [.runId]
  unique := true
  filter := some (.equals .purpose "apply")

def oneOutstandingRecoveryConfirmationPerRun : Index Table Column where
  table := .runConfirmations
  columns := [.runId]
  unique := true
  filter := some (.and (.equals .purpose "recovery_retry") (.absent .consumedAt))

def changeRecoveryAttempts : TableDef Table Column where
  columns := [.required .text .attemptId,.required .text .changeId,.required .text .runId,.required .text .hostId,
    .required .text .objectId,.required .integer .sequence,.required .text .kind,.required .text .startedAt,
    .required .text .protectionManagementPath,.nullable .text .protectionEvidenceId,
    .orElse .text .evidenceOutcome (.text "not_attempted"),.nullable .text .evidenceObservationId,
    .nullable .integer .evidenceObservedValue,.nullable .text .evidenceObservedState,.nullable .text .evidenceReason,
    .nullable .text .confirmationId,.nullable .text .executionCorrelation,.nullable .text .mutationAttemptId,
    .nullable .text .dispatchBeganAt,.nullable .text .mutationOutcome,.nullable .text .mutationReason,
    .nullable .text .mutationProvider,.nullable .text .mutationMethod,
    .orElse .text .mutationDetail (.text "\x7b\x7d"),.orElse .text .hostEffect (.text "none"),
    .orElse .text .verificationOutcome (.text "not_attempted"),.nullable .text .verificationObservationId,
    .nullable .integer .verificationObservedValue,.nullable .text .verificationObservedState,
    .nullable .text .verificationReason,.orElse .text .outcome (.text "in_flight"),.nullable .text .refusalCode,
    .orElse .integer .releasesHold (.integer 0),.nullable .text .finishedAt,.nullable .text .operatorStatement,
    .nullable .text .note]
  references := [⟨.changeId,.changes,.changeId⟩,⟨.runId,.runs,.runId⟩,⟨.hostId,.hosts,.hostId⟩,
    ⟨.objectId,.objects,.objectId⟩,⟨.protectionEvidenceId,.managementPathObservations,.observationId⟩,
    ⟨.evidenceObservationId,.observations,.observationId⟩,⟨.confirmationId,.runConfirmations,.confirmationId⟩,
    ⟨.verificationObservationId,.observations,.observationId⟩]
  uniques := [[.attemptId],[.mutationAttemptId],[.changeId,.sequence]]
  checks := [
    .atLeast .sequence 1,
    .oneOf .kind ["retry","resolve"],
    .oneOf .protectionManagementPath ["on_management_path","not_on_management_path","unknown"],
    .oneOf .evidenceOutcome ["not_attempted","verified","mismatch","value_unreadable","observation_unavailable",
      "source_incompatible","target_absent"],
    .or (.absent .mutationOutcome) (.oneOf .mutationOutcome ["not_written","written","write_unknown"]),
    .oneOf .hostEffect ["none","written","write_unknown"],
    .oneOf .verificationOutcome ["not_attempted","verified","mismatch","value_unreadable","observation_unavailable",
      "source_incompatible","target_absent"],
    .oneOf .outcome ["in_flight","proven","verified","not_written","write_unknown","not_proven","refused",
      "interrupted","resolved"],
    .oneOfNumbers .releasesHold [0,1],
    .or (.differs .kind "resolve") (.all (.absent .confirmationId)
      [.absent .executionCorrelation,.absent .mutationAttemptId,.absent .dispatchBeganAt,.absent .mutationOutcome,
      .absent .mutationReason,.absent .mutationProvider,.absent .mutationMethod,.equals .hostEffect "none",
      .equals .verificationOutcome "not_attempted",.absent .verificationObservationId,
      .absent .verificationObservedValue,.absent .verificationObservedState,.oneOf .outcome ["resolved"],
      .present .operatorStatement]),
    .or (.differs .kind "retry") (.and (.absent .operatorStatement) (.absent .note)),
    .or (.differs .outcome "resolved") (.equals .kind "resolve"),
    .same (.absent .mutationAttemptId) (.absent .confirmationId),
    .same (.absent .mutationAttemptId) (.absent .dispatchBeganAt),
    .same (.absent .mutationAttemptId) (.absent .executionCorrelation),
    .or (.absent .mutationOutcome) (.present .mutationAttemptId),
    .or (.equals .verificationOutcome "not_attempted") (.present .mutationOutcome),
    .any (.and (.absent .mutationOutcome) (.equals .hostEffect "none"))
      [.and (.equals .mutationOutcome "not_written") (.equals .hostEffect "none"),
      .and (.equals .mutationOutcome "written") (.equals .hostEffect "written"),
      .and (.equals .mutationOutcome "write_unknown") (.equals .hostEffect "write_unknown")],
    .or (.differs .outcome "proven") (.all (.equals .evidenceOutcome "verified")
      [.present .evidenceObservationId,.absent .mutationOutcome,.equals .hostEffect "none"]),
    .or (.differs .outcome "verified") (.all (.equals .mutationOutcome "written")
      [.equals .verificationOutcome "verified",.present .verificationObservationId]),
    .or (.differs .outcome "not_written") (.equals .mutationOutcome "not_written"),
    .or (.differs .outcome "write_unknown") (.equals .mutationOutcome "write_unknown"),
    .or (.differs .outcome "not_proven") (.all (.equals .mutationOutcome "written")
      [.differs .verificationOutcome "not_attempted",.differs .verificationOutcome "verified"]),
    .or (.differs .outcome "refused") (.all (.absent .mutationAttemptId)
      [.absent .mutationOutcome,.equals .hostEffect "none",.present .refusalCode]),
    .chosen (.column .releasesHold) (.oneOf .outcome ["proven","verified","resolved"]) (.integer 1) (.integer 0),
    .same (.equals .outcome "in_flight") (.absent .finishedAt)]

def idxRecoveryAttemptsChange : Index Table Column where
  table := .changeRecoveryAttempts
  columns := [.changeId,.sequence]
  unique := false
  filter := none

def oneRecoveryAttemptInFlightPerChange : Index Table Column where
  table := .changeRecoveryAttempts
  columns := [.changeId]
  unique := true
  filter := some (.equals .outcome "in_flight")

def oneReleasePerRecoveryHold : Index Table Column where
  table := .changeRecoveryAttempts
  columns := [.changeId]
  unique := true
  filter := some (.equalsNumber .releasesHold 1)

def recoveryAttemptsBelongToARecoveryHold : Trigger Table Column where
  table := .changeRecoveryAttempts
  event := .insert
  condition := .not (.any .changes (.all (.agree (first .changeId) (new .changeId))
    [.agree (first .runId) (new .runId),.agree (first .hostId) (new .hostId),.agree (first .objectId) (new .objectId),
    .equals (first .result) "recovery_required"]))

def recoveryAttemptsCiteTheirOwnEvidenceOnInsert : Trigger Table Column where
  table := .changeRecoveryAttempts
  event := .insert
  condition := .or (.or (.and (.holds (.present (new .evidenceObservationId)))
    (.not (.any .observations (.all (.agree (first .observationId) (new .evidenceObservationId))
    [.agree (first .objectId) (new .objectId),.agree (first .hostId) (new .hostId)]))))
    (.and (.holds (.present (new .verificationObservationId)))
    (.not (.any .observations (.all (.agree (first .observationId) (new .verificationObservationId))
    [.agree (first .objectId) (new .objectId),.agree (first .hostId) (new .hostId)])))))
    (.and (.holds (.present (new .protectionEvidenceId)))
    (.not (.any .managementPathObservations (.and (.agree (first .observationId) (new .protectionEvidenceId))
    (.agree (first .hostId) (new .hostId))))))

def recoveryAttemptsCiteTheirOwnEvidenceOnUpdate : Trigger Table Column where
  table := .changeRecoveryAttempts
  event := .update []
  condition := .or (.and (.holds (.present (new .evidenceObservationId)))
    (.not (.any .observations (.all (.agree (first .observationId) (new .evidenceObservationId))
    [.agree (first .objectId) (new .objectId),.agree (first .hostId) (new .hostId)]))))
    (.and (.holds (.present (new .verificationObservationId)))
    (.not (.any .observations (.all (.agree (first .observationId) (new .verificationObservationId))
    [.agree (first .objectId) (new .objectId),.agree (first .hostId) (new .hostId)]))))

def recoveryMutationNamesTheAuthoritySpentOnItOnInsert : Trigger Table Column where
  table := .changeRecoveryAttempts
  event := .insert
  condition := .and (.holds (.present (new .mutationAttemptId)))
    (.not (.any .runConfirmations (.all (.agree (first .confirmationId) (new .confirmationId))
    [.agree (first .runId) (new .runId),.equals (first .purpose) "recovery_retry",.present (first .consumedAt),
    .agree (first .consumedByAttemptId) (new .mutationAttemptId)])))

def recoveryMutationNamesTheAuthoritySpentOnItOnUpdate : Trigger Table Column where
  table := .changeRecoveryAttempts
  event := .update []
  condition := .and (.holds (.present (new .mutationAttemptId)))
    (.not (.any .runConfirmations (.all (.agree (first .confirmationId) (new .confirmationId))
    [.agree (first .runId) (new .runId),.equals (first .purpose) "recovery_retry",.present (first .consumedAt),
    .agree (first .consumedByAttemptId) (new .mutationAttemptId)])))

def recoveryAttemptsIdentityIsImmutable : Trigger Table Column where
  table := .changeRecoveryAttempts
  event := .update []
  condition := .holds (.any (.disagree (old .changeId) (new .changeId))
    [.disagree (old .runId) (new .runId),.disagree (old .hostId) (new .hostId),.disagree (old .objectId)
    (new .objectId),.disagree (old .sequence) (new .sequence),.disagree (old .kind) (new .kind),
    .disagree (old .startedAt) (new .startedAt),.disagree (old .protectionManagementPath)
    (new .protectionManagementPath),.isNot (.column (old .protectionEvidenceId))
    (.column (new .protectionEvidenceId))])

def recoveryAttemptsSettleOnce : Trigger Table Column where
  table := .changeRecoveryAttempts
  event := .update []
  condition := .holds (.differs (old .outcome) "in_flight")

def recoveryAttemptsAreNotDeleted : Trigger Table Column where
  table := .changeRecoveryAttempts
  event := .delete
  condition := .always

def recoveryReleaseRequiresTheHoldOnInsert : Trigger Table Column where
  table := .changeRecoveryAttempts
  event := .insert
  condition := .and (.holds (.equalsNumber (new .releasesHold) 1))
    (.not (.any .objectWriteLocks (.and (.agree (first .runId) (new .runId))
    (.agree (first .objectId) (new .objectId)))))

def recoveryReleaseRequiresTheHoldOnUpdate : Trigger Table Column where
  table := .changeRecoveryAttempts
  event := .update []
  condition := .and (.and (.holds (.equalsNumber (new .releasesHold) 1))
    (.holds (.equalsNumber (old .releasesHold) 0))) (.not
    (.any .objectWriteLocks (.and (.agree (first .runId) (new .runId)) (.agree (first .objectId) (new .objectId)))))

def runEvents : TableDef Table Column where
  columns := [.required .text .eventId,.required .text .runId,.nullable .text .changeId,.required .integer .sequence,
    .required .text .event,.nullable .text .stateFrom,.nullable .text .stateTo,.required .text .occurredAt,
    .orElse .text .detail (.text "\x7b\x7d")]
  references := [⟨.runId,.runs,.runId⟩,⟨.changeId,.changes,.changeId⟩]
  uniques := [[.eventId],[.runId,.sequence]]
  checks := [
    .atLeast .sequence 1,
    .oneOf .event ["run_planned","run_cancelled","confirmation_satisfied","confirmation_required",
      "confirmation_consumed","apply_refused","arming_started","checkpoint_written","arming_failed",
      "target_correlated","target_correlation_failed","write_boundary_crossed","mutation_dispatched",
      "mutation_result","verification_started","verification_result","rollback_started",
      "rollback_mutation_dispatched","rollback_mutation_result","rollback_verification_started",
      "rollback_verification_result","recovery_required","run_finished","recovery_retry_started",
      "recovery_evidence_result","recovery_confirmation_satisfied","recovery_confirmation_consumed",
      "recovery_mutation_dispatched","recovery_mutation_result","recovery_verification_result",
      "recovery_retry_finished","recovery_resolved","recovery_hold_released"]]

def runEventsInto : List Column := [.eventId,.runId,.changeId,.sequence,.event,.stateFrom,.stateTo,.occurredAt,
  .detail]

def runEventsSelect : List (Supply Table Column) := [.column .eventId,.column .runId,.column .changeId,
  .column .sequence,.column .event,.column .stateFrom,.column .stateTo,.column .occurredAt,.column .detail]

def changesRequireAConsumedConfirmation : Trigger Table Column where
  table := .changes
  event := .insert
  condition := .not (.any .runConfirmations (.all (.agree (first .runId) (new .runId))
    [.agree (first .previewId) (new .previewId),.equals (first .purpose) "apply",.present (first .consumedAt)]))

def migration : Migration Table Column Name where
  version := 9
  suspendsForeignKeys := false
  statements := [.dropTrigger .changesRequireAConsumedConfirmation,.dropTrigger .runConfirmationsMatchTheRunsPreview,
    .dropTrigger .runConfirmationsAreConsumedOnce,.dropTrigger .runEventsAreAppendOnly,
    .dropTrigger .runEventsAreNotDeleted,.dropIndex .idxRunEventsRun,
    .rebuild .runConfirmations runConfirmations runConfirmationsInto runConfirmationsSelect,
    .createIndex .oneApplyConfirmationPerRun oneApplyConfirmationPerRun,
    .createIndex .oneOutstandingRecoveryConfirmationPerRun oneOutstandingRecoveryConfirmationPerRun,
    .createTable .changeRecoveryAttempts changeRecoveryAttempts,
    .createIndex .idxRecoveryAttemptsChange idxRecoveryAttemptsChange,
    .createIndex .oneRecoveryAttemptInFlightPerChange oneRecoveryAttemptInFlightPerChange,
    .createIndex .oneReleasePerRecoveryHold oneReleasePerRecoveryHold,
    .createTrigger .recoveryAttemptsBelongToARecoveryHold recoveryAttemptsBelongToARecoveryHold,
    .createTrigger .recoveryAttemptsCiteTheirOwnEvidenceOnInsert recoveryAttemptsCiteTheirOwnEvidenceOnInsert,
    .createTrigger .recoveryAttemptsCiteTheirOwnEvidenceOnUpdate recoveryAttemptsCiteTheirOwnEvidenceOnUpdate,
    .createTrigger .recoveryMutationNamesTheAuthoritySpentOnItOnInsert recoveryMutationNamesTheAuthoritySpentOnItOnInsert,
    .createTrigger .recoveryMutationNamesTheAuthoritySpentOnItOnUpdate recoveryMutationNamesTheAuthoritySpentOnItOnUpdate,
    .createTrigger .recoveryAttemptsIdentityIsImmutable recoveryAttemptsIdentityIsImmutable,
    .createTrigger .recoveryAttemptsSettleOnce recoveryAttemptsSettleOnce,
    .createTrigger .recoveryAttemptsAreNotDeleted recoveryAttemptsAreNotDeleted,
    .createTrigger .recoveryReleaseRequiresTheHoldOnInsert recoveryReleaseRequiresTheHoldOnInsert,
    .createTrigger .recoveryReleaseRequiresTheHoldOnUpdate recoveryReleaseRequiresTheHoldOnUpdate,
    .rebuild .runEvents runEvents runEventsInto runEventsSelect,
    .createIndex .idxRunEventsRun WriteBoundary.idxRunEventsRun,
    .createTrigger .runEventsAreAppendOnly WriteBoundary.runEventsAreAppendOnly,
    .createTrigger .runEventsAreNotDeleted WriteBoundary.runEventsAreNotDeleted,
    .createTrigger .runConfirmationsMatchTheRunsPreview WriteBoundary.runConfirmationsMatchTheRunsPreview,
    .createTrigger .runConfirmationsAreConsumedOnce WriteBoundary.runConfirmationsAreConsumedOnce,
    .createTrigger .changesRequireAConsumedConfirmation changesRequireAConsumedConfirmation]

end Recovery
end Migrations
end LocalPlane
