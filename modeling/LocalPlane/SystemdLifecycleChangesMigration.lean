import LocalPlane.SelfImpactOverrideMigration

/-!
# The fifteenth migration

Changes are rebuilt with the vocabulary of systemd services.
-/

set_option linter.dupNamespace false

namespace LocalPlane
namespace Migrations
namespace SystemdLifecycleChanges

open Sql

def changes : TableDef Table Column where
  columns := [.required .text .changeId,.required .text .runId,.required .text .previewId,
    .nullable .text .checkpointId,.required .text .hostId,.required .text .objectId,.required .text .operation,
    .required .text .changeKind,.nullable .text .field,.nullable .text .valueType,.nullable .integer .beforeValue,
    .nullable .integer .desiredValue,.nullable .text .action,.nullable .text .observedState,
    .nullable .text .expectedState,.orElse .text .executionCorrelation (.text "\x7b\x7d"),.required .text .createdAt,
    .required .text .applyAttemptId,.nullable .text .dispatchBeganAt,.nullable .text .mutationOutcome,
    .nullable .text .mutationReason,.nullable .text .mutationProvider,.nullable .text .mutationMethod,
    .orElse .text .mutationDetail (.text "\x7b\x7d"),.nullable .text .settledAt,
    .orElse .text .hostEffect (.text "none"),.orElse .text .verificationOutcome (.text "not_attempted"),
    .nullable .text .verificationObservationId,.nullable .integer .verificationObservedValue,
    .nullable .text .verificationObservedState,.nullable .text .verificationReason,
    .orElse .integer .rollbackRequired (.integer 0),.nullable .text .rollbackAttemptId,
    .nullable .text .rollbackDispatchBeganAt,.nullable .text .rollbackOutcome,.nullable .text .rollbackReason,
    .orElse .text .rollbackDetail (.text "\x7b\x7d"),
    .orElse .text .rollbackVerificationOutcome (.text "not_attempted"),
    .nullable .text .rollbackVerificationObservationId,.nullable .integer .rollbackVerificationObservedValue,
    .orElse .text .result (.text "in_flight"),.nullable .text .recoveryReason,.nullable .text .finishedAt]
  references := [⟨.runId,.runs,.runId⟩,⟨.previewId,.runPreviews,.previewId⟩,
    ⟨.checkpointId,.runCheckpoints,.checkpointId⟩,⟨.hostId,.hosts,.hostId⟩,⟨.objectId,.objects,.objectId⟩,
    ⟨.verificationObservationId,.observations,.observationId⟩,
    ⟨.rollbackVerificationObservationId,.observations,.observationId⟩]
  uniques := [[.changeId],[.runId],[.applyAttemptId],[.rollbackAttemptId]]
  checks := [
    .oneOf .operation ["network.interface.reconcile_mtu","docker.container.start","docker.container.stop",
      "docker.container.restart","systemd.service.start","systemd.service.stop","systemd.service.restart"],
    .oneOf .changeKind ["field","action"],
    .or (.absent .valueType) (.oneOf .valueType ["boolean","integer"]),
    .or (.absent .mutationOutcome) (.oneOf .mutationOutcome ["not_written","written","write_unknown"]),
    .oneOf .hostEffect ["none","written","write_unknown"],
    .oneOf .verificationOutcome ["not_attempted","verified","mismatch","value_unreadable","observation_unavailable",
      "source_incompatible","target_absent"],
    .oneOfNumbers .rollbackRequired [0,1],
    .or (.absent .rollbackOutcome) (.oneOf .rollbackOutcome ["not_written","written","write_unknown"]),
    .oneOf .rollbackVerificationOutcome ["not_attempted","verified","mismatch","value_unreadable",
      "observation_unavailable","source_incompatible","target_absent"],
    .oneOf .result ["in_flight","succeeded","failed","rolled_back","recovery_required"],
    .or (.differs .changeKind "field") (.all (.present .field)
      [.present .valueType,.present .beforeValue,.present .desiredValue,.disagree .beforeValue .desiredValue,
      .present .checkpointId,.absent .action,.absent .observedState,.absent .expectedState,
      .absent .verificationObservedState]),
    .or (.differs .changeKind "action") (.all (.present .action)
      [.present .observedState,.present .expectedState,.absent .field,.absent .valueType,.absent .beforeValue,
      .absent .desiredValue,.absent .checkpointId,.absent .verificationObservedValue,
      .equalsNumber .rollbackRequired 0,.absent .rollbackAttemptId,.absent .rollbackDispatchBeganAt,
      .absent .rollbackOutcome,.absent .rollbackReason,.equals .rollbackVerificationOutcome "not_attempted",
      .absent .rollbackVerificationObservationId,.absent .rollbackVerificationObservedValue,
      .differs .result "rolled_back"]),
    .any (.absent .mutationOutcome) [.equals .mutationOutcome "not_written",.present .dispatchBeganAt],
    .any (.and (.absent .mutationOutcome) (.equals .hostEffect "none"))
      [.and (.equals .mutationOutcome "not_written") (.equals .hostEffect "none"),
      .and (.equals .mutationOutcome "written") (.equals .hostEffect "written"),
      .and (.equals .mutationOutcome "write_unknown") (.equals .hostEffect "write_unknown")],
    .or (.differs .result "failed") (.and (.equals .mutationOutcome "not_written") (.equals .hostEffect "none")),
    .or (.differs .result "succeeded") (.and (.equals .mutationOutcome "written")
      (.equals .verificationOutcome "verified")),
    .or (.differs .result "rolled_back") (.equals .rollbackVerificationOutcome "verified"),
    .or (.differs .result "recovery_required") (.present .recoveryReason),
    .or (.differs .verificationOutcome "verified") (.present .verificationObservationId),
    .or (.differs .rollbackVerificationOutcome "verified") (.present .rollbackVerificationObservationId)]

def changesInto : List Column := [.changeId,.runId,.previewId,.checkpointId,.hostId,.objectId,.operation,.changeKind,
  .field,.valueType,.beforeValue,.desiredValue,.action,.observedState,.expectedState,.executionCorrelation,.createdAt,
  .applyAttemptId,.dispatchBeganAt,.mutationOutcome,.mutationReason,.mutationProvider,.mutationMethod,.mutationDetail,
  .settledAt,.hostEffect,.verificationOutcome,.verificationObservationId,.verificationObservedValue,
  .verificationObservedState,.verificationReason,.rollbackRequired,.rollbackAttemptId,.rollbackDispatchBeganAt,
  .rollbackOutcome,.rollbackReason,.rollbackDetail,.rollbackVerificationOutcome,.rollbackVerificationObservationId,
  .rollbackVerificationObservedValue,.result,.recoveryReason,.finishedAt]

def changesSelect : List (Supply Table Column) := [.column .changeId,.column .runId,.column .previewId,
  .column .checkpointId,.column .hostId,.column .objectId,.column .operation,.column .changeKind,.column .field,
  .column .valueType,.column .beforeValue,.column .desiredValue,.column .action,.column .observedState,
  .column .expectedState,.column .executionCorrelation,.column .createdAt,.column .applyAttemptId,
  .column .dispatchBeganAt,.column .mutationOutcome,.column .mutationReason,.column .mutationProvider,
  .column .mutationMethod,.column .mutationDetail,.column .settledAt,.column .hostEffect,.column .verificationOutcome,
  .column .verificationObservationId,.column .verificationObservedValue,.column .verificationObservedState,
  .column .verificationReason,.column .rollbackRequired,.column .rollbackAttemptId,.column .rollbackDispatchBeganAt,
  .column .rollbackOutcome,.column .rollbackReason,.column .rollbackDetail,.column .rollbackVerificationOutcome,
  .column .rollbackVerificationObservationId,.column .rollbackVerificationObservedValue,.column .result,
  .column .recoveryReason,.column .finishedAt]

def migration : Migration Table Column Name where
  version := 15
  suspendsForeignKeys := true
  statements := [.dropTrigger .changesIdentityIsImmutable,.dropTrigger .changesCheckpointBelongsToRun,
    .dropTrigger .changesOnTheManagementPathRequireAnArmedGuard,.dropTrigger .changesRequireAConsumedConfirmation,
    .dropTrigger .changesRequiringASelfImpactOverrideHaveOne,.dropTrigger .recoveryAttemptsBelongToARecoveryHold,
    .dropIndex .idxChangesHostCreated,.dropIndex .idxChangesObjectCreated,
    .rebuild .changes changes changesInto changesSelect,
    .createIndex .idxChangesHostCreated WriteBoundary.idxChangesHostCreated,
    .createIndex .idxChangesObjectCreated WriteBoundary.idxChangesObjectCreated,
    .createTrigger .changesIdentityIsImmutable Docker.changesIdentityIsImmutable,
    .createTrigger .changesCheckpointBelongsToRun Docker.changesCheckpointBelongsToRun,
    .createTrigger .changesOnTheManagementPathRequireAnArmedGuard ConnectionGuard.changesOnTheManagementPathRequireAnArmedGuard,
    .createTrigger .changesRequireAConsumedConfirmation Recovery.changesRequireAConsumedConfirmation,
    .createTrigger .changesRequiringASelfImpactOverrideHaveOne SelfImpactOverride.changesRequiringASelfImpactOverrideHaveOne,
    .createTrigger .recoveryAttemptsBelongToARecoveryHold Recovery.recoveryAttemptsBelongToARecoveryHold]

end SystemdLifecycleChanges
end Migrations
end LocalPlane
