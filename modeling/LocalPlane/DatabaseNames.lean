import LocalPlane.SqlTables

/-!
# Names in the store's database

Tables, columns, and the indexes and triggers every version of the schema gives a name to.
-/

set_option linter.dupNamespace false

namespace LocalPlane
namespace Migrations

inductive Table where
  | hosts | agentInstances | agentCapabilities | objects | observationSweeps | observations | intents | intentFields
  | managementTransitions | findings | providerObservations | ownershipFindings | intentRevisions | runPreviews
  | runs | managementPathObservations | runConfirmations | runCheckpoints | changes | runEvents | objectWriteLocks
  | changeRecoveryAttempts | runGuards
  deriving DecidableEq

inductive Column where
  | hostId | identityBasis | identityConfidence | hostname | configuredHostname | bootId | osId | osVersionId
  | osPrettyName | kernelName | kernelRelease | architecture | identityGaps | firstSeenAt | lastSeenAt
  | agentInstanceId | agentVersion | protocolVersion | transport | processIsolated | privilege | effectiveUid | pid
  | startedAt | firstContactAt | lastContactAt | capability | version | status | mutating | summary | reason
  | detail | discoveredAt | objectId | kind | identityValue | displayName | managementState | managementReason
  | sweepId | provider | providerVersion | completedAt | receivedAt | objectCount | missing | issues | observationId
  | method | fidelity | observedAt | healthState | healthReason | gaps | facts | evidence | intentId | supersedes
  | schemaVersion | origin | createdAt | field | valueType | value | transitionId | transition | fromState | toState
  | hostEffect | occurredAt | findingId | findingKey | findingType | subject | intendedType | intendedValue
  | observedType | observedValue | comparison | updatedAt | resolvedAt | resolution | resolvedByObservationId
  | activeIntentId | providerObservationId | source | records | ownerProvider | ownerInstance | ownerLabel
  | confidence | evidenceSource | resolvedByProviderObservationId | revisionId | previewId | previewDigest
  | digestVersion | operation | currentValue | desiredValue | intentVersion | intentCapability | intentProvider
  | driftFindingId | ownershipState | ownershipReason | ownershipClaims | ownershipGaps | providerReadings
  | protectionManagementPath | protectionReason | protectionMissingEvidence | riskTier | riskFactors
  | confirmationRequired | confirmationMethod | confirmationSource | confirmationReasons | confirmationPolicy
  | confirmationTokenIssued | executionAvailability | executionEligibility | executionBlockers | executionProvider
  | requiredCapability | capabilityDeclared | recoveryMode | recoveryRollbackPossible | recoveryArmed
  | recoveryGuarantee | recoveryReason | verificationCapability | verificationProvider | verificationCondition
  | verificationExecuted | publishedAt | runId | state | cancelledAt | transportPeerAddress | transportPeerFamily
  | localEndpointAddress | localEndpointFamily | routeStatus | routeReason | routeFamily | routeDestination
  | routeDestinationPrefixLength | routePreferredSource | routeGateway | routeOifIndex | routeTable | routeType
  | routeScope | routeProtocol | routePriority | routeError | protectionStatus | protectionReasons
  | protectionUnresolved | protectionEvidenceId | protectionEvidenceObservedAt | finishedAt | confirmationId
  | requiredMethod | policy | satisfiedAt | consumedAt | consumedByAttemptId | checkpointId | beforeValue
  | executionCorrelation | armedAt | changeId | applyAttemptId | dispatchBeganAt | mutationOutcome | mutationReason
  | mutationProvider | mutationMethod | mutationDetail | settledAt | verificationOutcome | verificationObservationId
  | verificationObservedValue | verificationReason | rollbackRequired | rollbackAttemptId | rollbackDispatchBeganAt
  | rollbackOutcome | rollbackReason | rollbackDetail | rollbackVerificationOutcome
  | rollbackVerificationObservationId | rollbackVerificationObservedValue | result | eventId | sequence | event
  | stateFrom | stateTo | lockKey | acquiredAt | changeKind | action | observedState | expectedState
  | verificationObservedState | purpose | attemptId | evidenceOutcome | evidenceObservationId
  | evidenceObservedValue | evidenceObservedState | evidenceReason | mutationAttemptId | outcome | refusalCode
  | releasesHold | operatorStatement | note | guardAvailability | guardReason | guardWindowS | guardPrerequisites
  | guardUnmet | guardGuarantee | guardArmed | typedStatement | guardId | windowS | armBeganAt | expiresAt
  | holderId | reversalAttemptId | keptAt | keptEvidenceId | settledPhase | settledReason | firedAt
  | reversalOutcome | reversalReason | settledDetail | scope | protectionAssessments | authorizationAssessment
  | lifecycleContext | selfImpact
  deriving DecidableEq

/-- Indexes and triggers. -/
inductive Name where
  | idxAgentInstancesHost | idxObjectsHostKind | idxSweepsHostReceived | idxObservationsObjectTime
  | idxObservationsSweep | idxIntentsObjectVersion | idxTransitionsObjectTime | idxFindingsOneOpenPerKey
  | idxFindingsObject | idxFindingsHost | objectsActiveIntentBelongsToObjectInsert
  | objectsActiveIntentBelongsToObjectUpdate | idxProviderObservationsNewest | idxOwnershipFindingsOneOpenPerKey
  | idxOwnershipFindingsObject | idxOwnershipFindingsHost | idxIntentRevisionsObjectTime | idxRunsHostCreated
  | idxRunsObjectCreated | runPreviewsAreImmutable | runsIntentBelongsToObject | runsObservationBelongsToObject
  | runsIdentityIsImmutable | idxManagementPathObservationsMatch | managementPathObservationsAreImmutable
  | runsProtectionEvidenceBelongsToHost | runConfirmationsMatchTheRunsPreview | runConfirmationsAreConsumedOnce
  | runCheckpointsAreImmutable | idxChangesHostCreated | idxChangesObjectCreated | changesIdentityIsImmutable
  | changesRequireAConsumedConfirmation | idxRunEventsRun | runEventsAreAppendOnly | runEventsAreNotDeleted
  | changesCheckpointBelongsToRun | oneApplyConfirmationPerRun | oneOutstandingRecoveryConfirmationPerRun
  | idxRecoveryAttemptsChange | oneRecoveryAttemptInFlightPerChange | oneReleasePerRecoveryHold
  | recoveryAttemptsBelongToARecoveryHold | recoveryAttemptsCiteTheirOwnEvidenceOnInsert
  | recoveryAttemptsCiteTheirOwnEvidenceOnUpdate | recoveryMutationNamesTheAuthoritySpentOnItOnInsert
  | recoveryMutationNamesTheAuthoritySpentOnItOnUpdate | recoveryAttemptsIdentityIsImmutable
  | recoveryAttemptsSettleOnce | recoveryAttemptsAreNotDeleted | recoveryReleaseRequiresTheHoldOnInsert
  | recoveryReleaseRequiresTheHoldOnUpdate | idxRunGuardsObject | runGuardsIdentityIsImmutable | runGuardsSettleOnce
  | runGuardsAreNotDeleted | runGuardsRequireTheTypedAuthority | runGuardsCiteTheirOwnEvidenceOnInsert
  | runGuardsKeepEvidenceIsTheirOwn | changesOnTheManagementPathRequireAnArmedGuard
  | idxSweepsHostCapabilityScopeReceived | oneSelfImpactOverridePerRun | changesRequiringASelfImpactOverrideHaveOne
  deriving DecidableEq

end Migrations
end LocalPlane
