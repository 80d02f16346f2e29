import LocalPlane.SelfImpactMigration

/-!
# The fourteenth migration

The self-impact override: previews and confirmations are rebuilt.
-/

set_option linter.dupNamespace false

namespace LocalPlane
namespace Migrations
namespace SelfImpactOverride

open Sql

def runPreviews : TableDef Table Column where
  columns := [.required .text .previewId,.required .text .previewDigest,.required .integer .digestVersion,
    .required .text .operation,.required .text .changeKind,.nullable .text .field,.nullable .text .valueType,
    .nullable .integer .currentValue,.nullable .integer .desiredValue,.nullable .text .action,
    .nullable .text .observedState,.nullable .text .expectedState,.nullable .text .intentId,
    .nullable .integer .intentVersion,.nullable .text .intentCapability,.nullable .text .intentProvider,
    .required .text .observationId,.required .text .sweepId,.required .text .observedAt,
    .nullable .text .driftFindingId,.required .text .ownershipState,.required .text .ownershipReason,
    .orElse .text .ownershipClaims (.text "[]"),.orElse .text .ownershipGaps (.text "[]"),
    .orElse .text .providerReadings (.text "\x7b\x7d"),.required .text .protectionStatus,
    .orElse .text .protectionReasons (.text "[]"),.orElse .text .protectionUnresolved (.text "[]"),
    .required .text .protectionManagementPath,.required .text .protectionReason,
    .orElse .text .protectionMissingEvidence (.text "[]"),.nullable .text .protectionEvidenceId,
    .nullable .text .protectionEvidenceObservedAt,.orElse .text .protectionAssessments (.text "[]"),
    .nullable .text .authorizationAssessment,.nullable .text .lifecycleContext,.nullable .text .selfImpact,
    .required .text .riskTier,.orElse .text .riskFactors (.text "[]"),.required .integer .confirmationRequired,
    .required .text .confirmationMethod,.required .text .confirmationSource,
    .orElse .text .confirmationReasons (.text "[]"),.required .text .confirmationPolicy,
    .required .integer .confirmationTokenIssued,.required .text .executionAvailability,
    .required .text .executionEligibility,.orElse .text .executionBlockers (.text "[]"),
    .nullable .text .executionProvider,.required .text .requiredCapability,.required .integer .capabilityDeclared,
    .orElse .text .guardAvailability (.text "unavailable"),.orElse .text .guardReason (.text "guard_not_required"),
    .orElse .integer .guardWindowS (.integer 0),.orElse .text .guardPrerequisites (.text "[]"),
    .orElse .text .guardUnmet (.text "[]"),.orElse .text .guardGuarantee (.text ""),
    .orElse .integer .guardArmed (.integer 0),.required .text .recoveryMode,
    .required .integer .recoveryRollbackPossible,.required .integer .recoveryArmed,.required .text .recoveryGuarantee,
    .required .text .recoveryReason,.required .text .verificationCapability,.required .text .verificationProvider,
    .required .text .verificationCondition,.required .integer .verificationExecuted,.required .text .publishedAt]
  references := [⟨.intentId,.intents,.intentId⟩,⟨.observationId,.observations,.observationId⟩,
    ⟨.sweepId,.observationSweeps,.sweepId⟩,⟨.driftFindingId,.findings,.findingId⟩,
    ⟨.protectionEvidenceId,.managementPathObservations,.observationId⟩]
  uniques := [[.previewId]]
  checks := [
    .atLeast .digestVersion 1,
    .oneOf .operation ["network.interface.reconcile_mtu","docker.container.start","docker.container.stop",
      "docker.container.restart","systemd.service.start","systemd.service.stop","systemd.service.restart"],
    .oneOf .changeKind ["field","action"],
    .or (.absent .valueType) (.oneOf .valueType ["boolean","integer"]),
    .or (.absent .intentVersion) (.atLeast .intentVersion 1),
    .oneOf .protectionStatus ["protected","clear","unknown"],
    .oneOf .protectionManagementPath ["on_management_path","not_on_management_path","unknown"],
    .oneOf .riskTier ["low","medium","high"],
    .oneOfNumbers .confirmationRequired [0,1],
    .oneOf .confirmationMethod ["none","acknowledge","typed"],
    .oneOf .confirmationSource ["policy","operation"],
    .equalsNumber .confirmationTokenIssued 0,
    .oneOf .executionAvailability ["available","unavailable","not_implemented"],
    .oneOf .executionEligibility ["eligible","guarded","blocked","self_impact_override_required"],
    .oneOfNumbers .capabilityDeclared [0,1],
    .oneOf .guardAvailability ["available","unavailable"],
    .atLeast .guardWindowS 0,
    .equalsNumber .guardArmed 0,
    .oneOf .recoveryMode ["auto","operator","none"],
    .oneOfNumbers .recoveryRollbackPossible [0,1],
    .equalsNumber .recoveryArmed 0,
    .equalsNumber .verificationExecuted 0,
    .or (.differs .changeKind "field") (.all (.present .field)
      [.present .valueType,.present .currentValue,.present .desiredValue,.disagree .currentValue .desiredValue,
      .or (.differs .valueType "boolean") (.and (.oneOfNumbers .currentValue [0,1])
      (.oneOfNumbers .desiredValue [0,1])),.present .intentId,.present .intentVersion,.present .intentCapability,
      .present .intentProvider,.absent .action,.absent .observedState,.absent .expectedState]),
    .or (.differs .changeKind "action") (.all (.present .action)
      [.present .observedState,.present .expectedState,.absent .field,.absent .valueType,.absent .currentValue,
      .absent .desiredValue,.absent .intentId,.absent .intentVersion,.absent .intentCapability,
      .absent .intentProvider,.absent .driftFindingId]),
    .or (.absent .protectionEvidenceId) (.present .protectionEvidenceObservedAt),
    .or (.differs .executionEligibility "guarded") (.and (.equals .guardAvailability "available")
      (.equals .protectionManagementPath "on_management_path")),
    .or (.differs .guardAvailability "available") (.equals .protectionManagementPath "on_management_path"),
    .or (.differs .guardAvailability "available") (.moreThan .guardWindowS 0),
    .or (.notLike (.column .operation) "systemd.service.")
      (.all (.equals .changeKind "action") [.oneOf .action ["start","stop","restart"],
      .present .authorizationAssessment,.present .lifecycleContext]),
    .any (.lessThan .digestVersion 6) [.notLike (.column .operation) "systemd.service.",.present .selfImpact],
    .or (.like (.column .operation) "systemd.service.") (.all (.absent .authorizationAssessment)
      [.absent .lifecycleContext,.absent .selfImpact]),
    .or (.differs .operation "systemd.service.start") (.equals .action "start"),
    .or (.differs .operation "systemd.service.stop") (.equals .action "stop"),
    .or (.differs .operation "systemd.service.restart") (.equals .action "restart"),
    .or (.differs .executionEligibility "self_impact_override_required")
      (.all (.like (.column .operation) "systemd.service.")
      [.atLeast .digestVersion 6,.present .selfImpact,.eq (.json .selfImpact "$.override_eligible")
      (.value (.integer 1))])]

def runPreviewsInto : List Column := [.previewId,.previewDigest,.digestVersion,.operation,.changeKind,.field,
  .valueType,.currentValue,.desiredValue,.action,.observedState,.expectedState,.intentId,.intentVersion,
  .intentCapability,.intentProvider,.observationId,.sweepId,.observedAt,.driftFindingId,.ownershipState,
  .ownershipReason,.ownershipClaims,.ownershipGaps,.providerReadings,.protectionStatus,.protectionReasons,
  .protectionUnresolved,.protectionManagementPath,.protectionReason,.protectionMissingEvidence,.protectionEvidenceId,
  .protectionEvidenceObservedAt,.protectionAssessments,.authorizationAssessment,.lifecycleContext,.selfImpact,
  .riskTier,.riskFactors,.confirmationRequired,.confirmationMethod,.confirmationSource,.confirmationReasons,
  .confirmationPolicy,.confirmationTokenIssued,.executionAvailability,.executionEligibility,.executionBlockers,
  .executionProvider,.requiredCapability,.capabilityDeclared,.guardAvailability,.guardReason,.guardWindowS,
  .guardPrerequisites,.guardUnmet,.guardGuarantee,.guardArmed,.recoveryMode,.recoveryRollbackPossible,.recoveryArmed,
  .recoveryGuarantee,.recoveryReason,.verificationCapability,.verificationProvider,.verificationCondition,
  .verificationExecuted,.publishedAt]

def runPreviewsSelect : List (Supply Table Column) := [.column .previewId,.column .previewDigest,
  .column .digestVersion,.column .operation,.column .changeKind,.column .field,.column .valueType,
  .column .currentValue,.column .desiredValue,.column .action,.column .observedState,.column .expectedState,
  .column .intentId,.column .intentVersion,.column .intentCapability,.column .intentProvider,.column .observationId,
  .column .sweepId,.column .observedAt,.column .driftFindingId,.column .ownershipState,.column .ownershipReason,
  .column .ownershipClaims,.column .ownershipGaps,.column .providerReadings,.column .protectionStatus,
  .column .protectionReasons,.column .protectionUnresolved,.column .protectionManagementPath,
  .column .protectionReason,.column .protectionMissingEvidence,.column .protectionEvidenceId,
  .column .protectionEvidenceObservedAt,.column .protectionAssessments,.column .authorizationAssessment,
  .column .lifecycleContext,.column .selfImpact,.column .riskTier,.column .riskFactors,.column .confirmationRequired,
  .column .confirmationMethod,.column .confirmationSource,.column .confirmationReasons,.column .confirmationPolicy,
  .column .confirmationTokenIssued,.column .executionAvailability,.column .executionEligibility,
  .column .executionBlockers,.column .executionProvider,.column .requiredCapability,.column .capabilityDeclared,
  .column .guardAvailability,.column .guardReason,.column .guardWindowS,.column .guardPrerequisites,
  .column .guardUnmet,.column .guardGuarantee,.column .guardArmed,.column .recoveryMode,
  .column .recoveryRollbackPossible,.column .recoveryArmed,.column .recoveryGuarantee,.column .recoveryReason,
  .column .verificationCapability,.column .verificationProvider,.column .verificationCondition,
  .column .verificationExecuted,.column .publishedAt]

def runConfirmations : TableDef Table Column where
  columns := [.required .text .confirmationId,.required .text .runId,.required .text .purpose,
    .required .text .previewId,.required .text .previewDigest,.required .integer .digestVersion,
    .required .text .requiredMethod,.required .text .method,.nullable .text .typedStatement,.required .text .policy,
    .required .text .source,.required .text .satisfiedAt,.nullable .text .consumedAt,
    .nullable .text .consumedByAttemptId]
  references := [⟨.runId,.runs,.runId⟩,⟨.previewId,.runPreviews,.previewId⟩]
  uniques := [[.confirmationId]]
  checks := [
    .oneOf .purpose ["apply","recovery_retry","self_impact_override"],
    .atLeast .digestVersion 1,
    .oneOf .requiredMethod ["acknowledge","typed"],
    .oneOf .method ["acknowledge","typed"],
    .equals .source "unauthenticated_request",
    .same (.equals .method "typed") (.present .typedStatement),
    .or (.differs .purpose "self_impact_override") (.and (.equals .method "acknowledge")
      (.equals .requiredMethod "acknowledge"))]

def runConfirmationsInto : List Column := [.confirmationId,.runId,.purpose,.previewId,.previewDigest,.digestVersion,
  .requiredMethod,.method,.typedStatement,.policy,.source,.satisfiedAt,.consumedAt,.consumedByAttemptId]

def runConfirmationsSelect : List (Supply Table Column) := [.column .confirmationId,.column .runId,.column .purpose,
  .column .previewId,.column .previewDigest,.column .digestVersion,.column .requiredMethod,.column .method,
  .column .typedStatement,.column .policy,.column .source,.column .satisfiedAt,.column .consumedAt,
  .column .consumedByAttemptId]

def oneSelfImpactOverridePerRun : Index Table Column where
  table := .runConfirmations
  columns := [.runId]
  unique := true
  filter := some (.equals .purpose "self_impact_override")

def changesRequiringASelfImpactOverrideHaveOne : Trigger Table Column where
  table := .changes
  event := .insert
  condition := .and (.any .runPreviews (.and (.agree (first .previewId) (new .previewId))
    (.equals (first .executionEligibility) "self_impact_override_required")))
    (.not (.any .runConfirmations (.all (.agree (first .runId) (new .runId))
    [.agree (first .previewId) (new .previewId),.equals (first .purpose) "self_impact_override",
    .present (first .consumedAt)])))

def migration : Migration Table Column Name where
  version := 14
  suspendsForeignKeys := true
  statements := [.dropTrigger .runPreviewsAreImmutable,.dropTrigger .runsIntentBelongsToObject,
    .dropTrigger .runsObservationBelongsToObject,.dropTrigger .runsProtectionEvidenceBelongsToHost,
    .dropTrigger .runConfirmationsMatchTheRunsPreview,.dropTrigger .runConfirmationsAreConsumedOnce,
    .dropTrigger .runGuardsRequireTheTypedAuthority,.dropTrigger .changesRequireAConsumedConfirmation,
    .dropTrigger .recoveryMutationNamesTheAuthoritySpentOnItOnInsert,
    .dropTrigger .recoveryMutationNamesTheAuthoritySpentOnItOnUpdate,
    .rebuild .runPreviews runPreviews runPreviewsInto runPreviewsSelect,
    .createTrigger .runPreviewsAreImmutable WriteBoundary.runPreviewsAreImmutable,
    .rebuild .runConfirmations runConfirmations runConfirmationsInto runConfirmationsSelect,
    .createIndex .oneApplyConfirmationPerRun Recovery.oneApplyConfirmationPerRun,
    .createIndex .oneOutstandingRecoveryConfirmationPerRun Recovery.oneOutstandingRecoveryConfirmationPerRun,
    .createIndex .oneSelfImpactOverridePerRun oneSelfImpactOverridePerRun,
    .createTrigger .runConfirmationsMatchTheRunsPreview WriteBoundary.runConfirmationsMatchTheRunsPreview,
    .createTrigger .runConfirmationsAreConsumedOnce WriteBoundary.runConfirmationsAreConsumedOnce,
    .createTrigger .changesRequireAConsumedConfirmation Recovery.changesRequireAConsumedConfirmation,
    .createTrigger .changesRequiringASelfImpactOverrideHaveOne changesRequiringASelfImpactOverrideHaveOne,
    .createTrigger .runGuardsRequireTheTypedAuthority ConnectionGuard.runGuardsRequireTheTypedAuthority,
    .createTrigger .recoveryMutationNamesTheAuthoritySpentOnItOnInsert Recovery.recoveryMutationNamesTheAuthoritySpentOnItOnInsert,
    .createTrigger .recoveryMutationNamesTheAuthoritySpentOnItOnUpdate Recovery.recoveryMutationNamesTheAuthoritySpentOnItOnUpdate,
    .createTrigger .runsIntentBelongsToObject Docker.runsIntentBelongsToObject,
    .createTrigger .runsObservationBelongsToObject WriteBoundary.runsObservationBelongsToObject,
    .createTrigger .runsProtectionEvidenceBelongsToHost WriteBoundary.runsProtectionEvidenceBelongsToHost]

end SelfImpactOverride
end Migrations
end LocalPlane
