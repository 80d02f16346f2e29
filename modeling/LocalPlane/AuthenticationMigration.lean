import LocalPlane.SystemdLifecycleChangesMigration

/-!
# The sixteenth migration

Confirmations are rebuilt to admit an authenticated source.
-/

set_option linter.dupNamespace false

namespace LocalPlane
namespace Migrations
namespace Authentication

open Sql

def runConfirmations : TableDef Table Column where
  columns := [.required .text .confirmationId,.required .text .runId,.required .text .purpose,
    .required .text .previewId,.required .text .previewDigest,.required .integer .digestVersion,
    .required .text .requiredMethod,.required .text .method,.nullable .text .typedStatement,.required .text .policy,
    .required .text .source,.required .text .satisfiedAt,.nullable .text .consumedAt,
    .nullable .text .consumedByAttemptId]
  references := [⟨.runId,.runs,.runId⟩,⟨.previewId,.runPreviews,.previewId⟩]
  uniques := [[.confirmationId]]
  checks := [
    .oneOf .purpose ["apply","recovery_retry","self_impact_override"],
    .atLeast .digestVersion 1,
    .oneOf .requiredMethod ["acknowledge","typed"],
    .oneOf .method ["acknowledge","typed"],
    .oneOf .source ["unauthenticated_request","authenticated_request"],
    .same (.equals .method "typed") (.present .typedStatement),
    .or (.differs .purpose "self_impact_override") (.and (.equals .method "acknowledge")
      (.equals .requiredMethod "acknowledge"))]

def runConfirmationsInto : List Column := [.confirmationId,.runId,.purpose,.previewId,.previewDigest,.digestVersion,
  .requiredMethod,.method,.typedStatement,.policy,.source,.satisfiedAt,.consumedAt,.consumedByAttemptId]

def runConfirmationsSelect : List (Supply Table Column) := [.column .confirmationId,.column .runId,.column .purpose,
  .column .previewId,.column .previewDigest,.column .digestVersion,.column .requiredMethod,.column .method,
  .column .typedStatement,.column .policy,.column .source,.column .satisfiedAt,.column .consumedAt,
  .column .consumedByAttemptId]

def migration : Migration Table Column Name where
  version := 16
  suspendsForeignKeys := true
  statements := [.dropTrigger .changesRequireAConsumedConfirmation,
    .dropTrigger .changesRequiringASelfImpactOverrideHaveOne,.dropTrigger .runGuardsRequireTheTypedAuthority,
    .dropTrigger .recoveryMutationNamesTheAuthoritySpentOnItOnInsert,
    .dropTrigger .recoveryMutationNamesTheAuthoritySpentOnItOnUpdate,
    .rebuild .runConfirmations runConfirmations runConfirmationsInto runConfirmationsSelect,
    .createIndex .oneApplyConfirmationPerRun Recovery.oneApplyConfirmationPerRun,
    .createIndex .oneOutstandingRecoveryConfirmationPerRun Recovery.oneOutstandingRecoveryConfirmationPerRun,
    .createIndex .oneSelfImpactOverridePerRun SelfImpactOverride.oneSelfImpactOverridePerRun,
    .createTrigger .runConfirmationsMatchTheRunsPreview WriteBoundary.runConfirmationsMatchTheRunsPreview,
    .createTrigger .runConfirmationsAreConsumedOnce WriteBoundary.runConfirmationsAreConsumedOnce,
    .createTrigger .changesRequireAConsumedConfirmation Recovery.changesRequireAConsumedConfirmation,
    .createTrigger .changesRequiringASelfImpactOverrideHaveOne SelfImpactOverride.changesRequiringASelfImpactOverrideHaveOne,
    .createTrigger .runGuardsRequireTheTypedAuthority ConnectionGuard.runGuardsRequireTheTypedAuthority,
    .createTrigger .recoveryMutationNamesTheAuthoritySpentOnItOnInsert Recovery.recoveryMutationNamesTheAuthoritySpentOnItOnInsert,
    .createTrigger .recoveryMutationNamesTheAuthoritySpentOnItOnUpdate Recovery.recoveryMutationNamesTheAuthoritySpentOnItOnUpdate]

end Authentication
end Migrations
end LocalPlane
