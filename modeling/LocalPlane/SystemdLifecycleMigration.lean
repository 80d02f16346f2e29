import LocalPlane.ObservationScopeMigration

/-!
# The twelfth migration

Services of systemd: previews and runs are rebuilt with a wider vocabulary.
-/

set_option linter.dupNamespace false

namespace LocalPlane
namespace Migrations
namespace SystemdLifecycle

open Sql

def runPreviews : TableDef Table Column where
  columns := [.required .text .previewId,.required .text .previewDigest,.required .integer .digestVersion,
    .required .text .operation,.required .text .changeKind,.nullable .text .field,.nullable .text .valueType,
    .nullable .integer .currentValue,.nullable .integer .desiredValue,.nullable .text .action,
    .nullable .text .observedState,.nullable .text .expectedState,.nullable .text .intentId,
    .nullable .integer .intentVersion,.nullable .text .intentCapability,.nullable .text .intentProvider,
    .required .text .observationId,.required .text .sweepId,.required .text .observedAt,
    .nullable .text .driftFindingId,.required .text .ownershipState,.required .text .ownershipReason,
    .orElse .text .ownershipClaims (.text "[]"),.orElse .text .ownershipGaps (.text "[]"),
    .orElse .text .providerReadings (.text "\x7b\x7d"),.required .text .protectionStatus,
    .orElse .text .protectionReasons (.text "[]"),.orElse .text .protectionUnresolved (.text "[]"),
    .required .text .protectionManagementPath,.required .text .protectionReason,
    .orElse .text .protectionMissingEvidence (.text "[]"),.nullable .text .protectionEvidenceId,
    .nullable .text .protectionEvidenceObservedAt,.orElse .text .protectionAssessments (.text "[]"),
    .nullable .text .authorizationAssessment,.nullable .text .lifecycleContext,.required .text .riskTier,
    .orElse .text .riskFactors (.text "[]"),.required .integer .confirmationRequired,
    .required .text .confirmationMethod,.required .text .confirmationSource,
    .orElse .text .confirmationReasons (.text "[]"),.required .text .confirmationPolicy,
    .required .integer .confirmationTokenIssued,.required .text .executionAvailability,
    .required .text .executionEligibility,.orElse .text .executionBlockers (.text "[]"),
    .nullable .text .executionProvider,.required .text .requiredCapability,.required .integer .capabilityDeclared,
    .orElse .text .guardAvailability (.text "unavailable"),.orElse .text .guardReason (.text "guard_not_required"),
    .orElse .integer .guardWindowS (.integer 0),.orElse .text .guardPrerequisites (.text "[]"),
    .orElse .text .guardUnmet (.text "[]"),.orElse .text .guardGuarantee (.text ""),
    .orElse .integer .guardArmed (.integer 0),.required .text .recoveryMode,
    .required .integer .recoveryRollbackPossible,.required .integer .recoveryArmed,.required .text .recoveryGuarantee,
    .required .text .recoveryReason,.required .text .verificationCapability,.required .text .verificationProvider,
    .required .text .verificationCondition,.required .integer .verificationExecuted,.required .text .publishedAt]
  references := [⟨.intentId,.intents,.intentId⟩,⟨.observationId,.observations,.observationId⟩,
    ⟨.sweepId,.observationSweeps,.sweepId⟩,⟨.driftFindingId,.findings,.findingId⟩,
    ⟨.protectionEvidenceId,.managementPathObservations,.observationId⟩]
  uniques := [[.previewId]]
  checks := [
    .atLeast .digestVersion 1,
    .oneOf .operation ["network.interface.reconcile_mtu","docker.container.start","docker.container.stop",
      "docker.container.restart","systemd.service.start","systemd.service.stop","systemd.service.restart"],
    .oneOf .changeKind ["field","action"],
    .or (.absent .valueType) (.oneOf .valueType ["boolean","integer"]),
    .or (.absent .intentVersion) (.atLeast .intentVersion 1),
    .oneOf .protectionStatus ["protected","clear","unknown"],
    .oneOf .protectionManagementPath ["on_management_path","not_on_management_path","unknown"],
    .oneOf .riskTier ["low","medium","high"],
    .oneOfNumbers .confirmationRequired [0,1],
    .oneOf .confirmationMethod ["none","acknowledge","typed"],
    .oneOf .confirmationSource ["policy","operation"],
    .equalsNumber .confirmationTokenIssued 0,
    .oneOf .executionAvailability ["available","unavailable","not_implemented"],
    .oneOf .executionEligibility ["eligible","guarded","blocked"],
    .oneOfNumbers .capabilityDeclared [0,1],
    .oneOf .guardAvailability ["available","unavailable"],
    .atLeast .guardWindowS 0,
    .equalsNumber .guardArmed 0,
    .oneOf .recoveryMode ["auto","operator","none"],
    .oneOfNumbers .recoveryRollbackPossible [0,1],
    .equalsNumber .recoveryArmed 0,
    .equalsNumber .verificationExecuted 0,
    .or (.differs .changeKind "field") (.all (.present .field)
      [.present .valueType,.present .currentValue,.present .desiredValue,.disagree .currentValue .desiredValue,
      .or (.differs .valueType "boolean") (.and (.oneOfNumbers .currentValue [0,1])
      (.oneOfNumbers .desiredValue [0,1])),.present .intentId,.present .intentVersion,.present .intentCapability,
      .present .intentProvider,.absent .action,.absent .observedState,.absent .expectedState]),
    .or (.differs .changeKind "action") (.all (.present .action)
      [.present .observedState,.present .expectedState,.absent .field,.absent .valueType,.absent .currentValue,
      .absent .desiredValue,.absent .intentId,.absent .intentVersion,.absent .intentCapability,
      .absent .intentProvider,.absent .driftFindingId]),
    .or (.absent .protectionEvidenceId) (.present .protectionEvidenceObservedAt),
    .or (.differs .executionEligibility "guarded") (.and (.equals .guardAvailability "available")
      (.equals .protectionManagementPath "on_management_path")),
    .or (.differs .guardAvailability "available") (.equals .protectionManagementPath "on_management_path"),
    .or (.differs .guardAvailability "available") (.moreThan .guardWindowS 0),
    .or (.notLike (.column .operation) "systemd.service.")
      (.all (.equals .changeKind "action") [.oneOf .action ["start","stop","restart"],
      .present .authorizationAssessment,.present .lifecycleContext]),
    .or (.like (.column .operation) "systemd.service.") (.and (.absent .authorizationAssessment)
      (.absent .lifecycleContext)),
    .or (.differs .operation "systemd.service.start") (.equals .action "start"),
    .or (.differs .operation "systemd.service.stop") (.equals .action "stop"),
    .or (.differs .operation "systemd.service.restart") (.equals .action "restart")]

def runPreviewsInto : List Column := [.previewId,.previewDigest,.digestVersion,.operation,.changeKind,.field,
  .valueType,.currentValue,.desiredValue,.action,.observedState,.expectedState,.intentId,.intentVersion,
  .intentCapability,.intentProvider,.observationId,.sweepId,.observedAt,.driftFindingId,.ownershipState,
  .ownershipReason,.ownershipClaims,.ownershipGaps,.providerReadings,.protectionStatus,.protectionReasons,
  .protectionUnresolved,.protectionManagementPath,.protectionReason,.protectionMissingEvidence,.protectionEvidenceId,
  .protectionEvidenceObservedAt,.protectionAssessments,.authorizationAssessment,.lifecycleContext,.riskTier,
  .riskFactors,.confirmationRequired,.confirmationMethod,.confirmationSource,.confirmationReasons,.confirmationPolicy,
  .confirmationTokenIssued,.executionAvailability,.executionEligibility,.executionBlockers,.executionProvider,
  .requiredCapability,.capabilityDeclared,.guardAvailability,.guardReason,.guardWindowS,.guardPrerequisites,
  .guardUnmet,.guardGuarantee,.guardArmed,.recoveryMode,.recoveryRollbackPossible,.recoveryArmed,.recoveryGuarantee,
  .recoveryReason,.verificationCapability,.verificationProvider,.verificationCondition,.verificationExecuted,
  .publishedAt]

def runPreviewsSelect : List (Supply Table Column) := [.column .previewId,.column .previewDigest,
  .column .digestVersion,.column .operation,.column .changeKind,.column .field,.column .valueType,
  .column .currentValue,.column .desiredValue,.column .action,.column .observedState,.column .expectedState,
  .column .intentId,.column .intentVersion,.column .intentCapability,.column .intentProvider,.column .observationId,
  .column .sweepId,.column .observedAt,.column .driftFindingId,.column .ownershipState,.column .ownershipReason,
  .column .ownershipClaims,.column .ownershipGaps,.column .providerReadings,.column .protectionStatus,
  .column .protectionReasons,.column .protectionUnresolved,.column .protectionManagementPath,
  .column .protectionReason,.column .protectionMissingEvidence,.column .protectionEvidenceId,
  .column .protectionEvidenceObservedAt,.value (.text "[]"),.value .null,.value .null,.column .riskTier,
  .column .riskFactors,.column .confirmationRequired,.column .confirmationMethod,.column .confirmationSource,
  .column .confirmationReasons,.column .confirmationPolicy,.column .confirmationTokenIssued,
  .column .executionAvailability,.column .executionEligibility,.column .executionBlockers,.column .executionProvider,
  .column .requiredCapability,.column .capabilityDeclared,.column .guardAvailability,.column .guardReason,
  .column .guardWindowS,.column .guardPrerequisites,.column .guardUnmet,.column .guardGuarantee,.column .guardArmed,
  .column .recoveryMode,.column .recoveryRollbackPossible,.column .recoveryArmed,.column .recoveryGuarantee,
  .column .recoveryReason,.column .verificationCapability,.column .verificationProvider,
  .column .verificationCondition,.column .verificationExecuted,.column .publishedAt]

def runs : TableDef Table Column where
  columns := [.required .text .runId,.required .text .hostId,.required .text .objectId,.required .text .operation,
    .required .text .state,.required .text .previewId,.orElse .text .hostEffect (.text "none"),
    .required .text .createdAt,.nullable .text .cancelledAt,.nullable .text .finishedAt]
  references := [⟨.hostId,.hosts,.hostId⟩,⟨.objectId,.objects,.objectId⟩,⟨.previewId,.runPreviews,.previewId⟩]
  uniques := [[.runId],[.previewId]]
  checks := [
    .oneOf .operation ["network.interface.reconcile_mtu","docker.container.start","docker.container.stop",
      "docker.container.restart","systemd.service.start","systemd.service.stop","systemd.service.restart"],
    .oneOf .state ["preview","awaiting_confirmation","arming","applying","verifying","guarded","succeeded","failed",
      "rolling_back","rollback_verifying","rolled_back","recovery_required","cancelled"],
    .oneOf .hostEffect ["none","written","write_unknown"],
    .same (.equals .state "cancelled") (.present .cancelledAt),
    .or (.equals .hostEffect "none") (.oneOf .state ["applying","verifying","guarded","succeeded","rolling_back",
      "rollback_verifying","rolled_back","recovery_required"]),
    .or (.differs .state "succeeded") (.equals .hostEffect "written"),
    .or (.differs .state "guarded") (.equals .hostEffect "written"),
    .or (.differs .state "failed") (.equals .hostEffect "none"),
    .or (.differs .state "rolled_back") (.oneOf .hostEffect ["written","write_unknown"]),
    .or (.differs .state "recovery_required") (.oneOf .hostEffect ["written","write_unknown"])]

def runsInto : List Column := [.runId,.hostId,.objectId,.operation,.state,.previewId,.hostEffect,.createdAt,
  .cancelledAt,.finishedAt]

def runsSelect : List (Supply Table Column) := [.column .runId,.column .hostId,.column .objectId,.column .operation,
  .column .state,.column .previewId,.column .hostEffect,.column .createdAt,.column .cancelledAt,.column .finishedAt]

def migration : Migration Table Column Name where
  version := 12
  suspendsForeignKeys := true
  statements := [.dropTrigger .runConfirmationsMatchTheRunsPreview,.dropTrigger .runPreviewsAreImmutable,
    .dropTrigger .runsIntentBelongsToObject,.dropTrigger .runsObservationBelongsToObject,
    .dropTrigger .runsIdentityIsImmutable,.dropTrigger .runsProtectionEvidenceBelongsToHost,
    .dropIndex .idxRunsHostCreated,.dropIndex .idxRunsObjectCreated,
    .rebuild .runPreviews runPreviews runPreviewsInto runPreviewsSelect,
    .createTrigger .runPreviewsAreImmutable WriteBoundary.runPreviewsAreImmutable,
    .rebuild .runs runs runsInto runsSelect,.createIndex .idxRunsHostCreated WriteBoundary.idxRunsHostCreated,
    .createIndex .idxRunsObjectCreated WriteBoundary.idxRunsObjectCreated,
    .createTrigger .runsIntentBelongsToObject Docker.runsIntentBelongsToObject,
    .createTrigger .runsObservationBelongsToObject WriteBoundary.runsObservationBelongsToObject,
    .createTrigger .runsIdentityIsImmutable WriteBoundary.runsIdentityIsImmutable,
    .createTrigger .runsProtectionEvidenceBelongsToHost WriteBoundary.runsProtectionEvidenceBelongsToHost,
    .createTrigger .runConfirmationsMatchTheRunsPreview WriteBoundary.runConfirmationsMatchTheRunsPreview]

end SystemdLifecycle
end Migrations
end LocalPlane
