import LocalPlane.DatabaseNames

/-!
# Tables that keep their definition

What the migrations up to the seventh made of every table outside the change engine. Only two are
touched afterwards: objects, which is rebuilt once, and the sweeps, which gain a column.
-/

set_option linter.dupNamespace false

namespace LocalPlane
namespace Migrations
namespace Initial

open Sql

def hosts : TableDef Table Column where
  columns := [.required .text .hostId,.required .text .identityBasis,.required .text .identityConfidence,
    .nullable .text .hostname,.nullable .text .configuredHostname,.nullable .text .bootId,.nullable .text .osId,
    .nullable .text .osVersionId,.nullable .text .osPrettyName,.nullable .text .kernelName,
    .nullable .text .kernelRelease,.nullable .text .architecture,.orElse .text .identityGaps (.text "[]"),
    .required .text .firstSeenAt,.required .text .lastSeenAt]
  references := []
  uniques := [[.hostId]]
  checks := [
    .oneOf .identityConfidence ["high","low"]]

def agentInstances : TableDef Table Column where
  columns := [.required .text .agentInstanceId,.required .text .hostId,.required .text .agentVersion,
    .required .text .protocolVersion,.required .text .transport,.required .integer .processIsolated,
    .required .text .privilege,.nullable .integer .effectiveUid,.nullable .integer .pid,.required .text .startedAt,
    .required .text .firstContactAt,.required .text .lastContactAt]
  references := [⟨.hostId,.hosts,.hostId⟩]
  uniques := [[.agentInstanceId]]
  checks := [
    .oneOfNumbers .processIsolated [0,1],
    .oneOf .privilege ["unprivileged","root"]]

def agentCapabilities : TableDef Table Column where
  columns := [.required .text .agentInstanceId,.required .text .capability,.required .integer .version,
    .required .text .status,.required .integer .mutating,.required .text .summary,.nullable .text .reason,
    .orElse .text .detail (.text "\x7b\x7d"),.required .text .discoveredAt]
  references := [⟨.agentInstanceId,.agentInstances,.agentInstanceId⟩]
  uniques := [[.agentInstanceId,.capability]]
  checks := [
    .oneOf .status ["available","degraded","unavailable"],
    .oneOfNumbers .mutating [0,1]]

def objects : TableDef Table Column where
  columns := [.required .text .objectId,.required .text .hostId,.required .text .kind,.required .text .identityBasis,
    .required .text .identityValue,.required .text .identityConfidence,.required .text .displayName,
    .required .text .managementState,.required .text .managementReason,.required .text .firstSeenAt,
    .required .text .lastSeenAt,.nullable .text .activeIntentId]
  references := [⟨.hostId,.hosts,.hostId⟩,⟨.activeIntentId,.intents,.intentId⟩]
  uniques := [[.objectId],[.hostId,.kind,.identityBasis,.identityValue]]
  checks := [
    .oneOf .identityBasis ["permanent_mac","device_path","kernel_name"],
    .oneOf .identityConfidence ["high","low"],
    .oneOf .managementState ["observe_only","observed","managed"],
    .same (.equals .managementState "managed") (.present .activeIntentId)]

def observationSweeps : TableDef Table Column where
  columns := [.required .text .sweepId,.required .text .hostId,.nullable .text .agentInstanceId,
    .required .text .capability,.required .text .provider,.required .text .providerVersion,.required .text .status,
    .required .text .startedAt,.required .text .completedAt,.required .text .receivedAt,
    .required .integer .objectCount,.orElse .text .missing (.text "[]"),.orElse .text .issues (.text "[]")]
  references := [⟨.hostId,.hosts,.hostId⟩,⟨.agentInstanceId,.agentInstances,.agentInstanceId⟩]
  uniques := [[.sweepId]]
  checks := [
    .oneOf .status ["ok","partial","failed"]]

def observations : TableDef Table Column where
  columns := [.required .text .observationId,.required .text .sweepId,.required .text .hostId,
    .required .text .objectId,.required .text .capability,.required .text .provider,.required .text .providerVersion,
    .required .text .method,.required .text .fidelity,.required .text .observedAt,.required .text .receivedAt,
    .required .text .healthState,.required .text .healthReason,.orElse .text .gaps (.text "[]"),
    .required .text .facts,.orElse .text .evidence (.text "\x7b\x7d")]
  references := [⟨.sweepId,.observationSweeps,.sweepId⟩,⟨.hostId,.hosts,.hostId⟩,⟨.objectId,.objects,.objectId⟩]
  uniques := [[.observationId]]
  checks := [
    .oneOf .fidelity ["complete","partial","degraded"],
    .oneOf .healthState ["healthy","degraded","failed","inactive","unknown"]]

def intents : TableDef Table Column where
  columns := [.required .text .intentId,.required .text .objectId,.required .text .hostId,.required .integer .version,
    .nullable .text .supersedes,.required .integer .schemaVersion,.required .text .origin,.required .text .capability,
    .required .text .provider,.required .text .providerVersion,.required .text .observationId,
    .required .text .sweepId,.required .text .observedAt,.required .text .createdAt]
  references := [⟨.objectId,.objects,.objectId⟩,⟨.hostId,.hosts,.hostId⟩,⟨.supersedes,.intents,.intentId⟩,
    ⟨.observationId,.observations,.observationId⟩,⟨.sweepId,.observationSweeps,.sweepId⟩]
  uniques := [[.intentId],[.objectId,.version]]
  checks := [
    .atLeast .version 1,
    .atLeast .schemaVersion 1,
    .oneOf .origin ["adopt"]]

def intentFields : TableDef Table Column where
  columns := [.required .text .intentId,.required .text .field,.required .text .valueType,.required .integer .value]
  references := [⟨.intentId,.intents,.intentId⟩]
  uniques := [[.intentId,.field]]
  checks := [
    .oneOf .valueType ["boolean","integer"],
    .or (.differs .valueType "boolean") (.oneOfNumbers .value [0,1])]

def managementTransitions : TableDef Table Column where
  columns := [.required .text .transitionId,.required .text .objectId,.required .text .hostId,
    .required .text .transition,.required .text .fromState,.required .text .toState,.required .text .intentId,
    .nullable .text .observationId,.required .text .hostEffect,.required .text .occurredAt]
  references := [⟨.objectId,.objects,.objectId⟩,⟨.hostId,.hosts,.hostId⟩,⟨.intentId,.intents,.intentId⟩,
    ⟨.observationId,.observations,.observationId⟩]
  uniques := [[.transitionId]]
  checks := [
    .oneOf .transition ["adopt","release"],
    .equals .hostEffect "none",
    .or (.all (.equals .transition "adopt") [.equals .fromState "observed",.equals .toState "managed",
      .present .observationId]) (.all (.equals .transition "release")
      [.equals .fromState "managed",.equals .toState "observed",.absent .observationId])]

def providerObservations : TableDef Table Column where
  columns := [.required .text .providerObservationId,.required .text .sweepId,.required .text .hostId,
    .required .text .provider,.required .text .source,.required .text .status,.nullable .text .reason,
    .required .text .method,.nullable .text .providerVersion,.required .text .observedAt,.required .text .receivedAt,
    .orElse .text .records (.text "[]"),.orElse .text .detail (.text "\x7b\x7d")]
  references := [⟨.sweepId,.observationSweeps,.sweepId⟩,⟨.hostId,.hosts,.hostId⟩]
  uniques := [[.providerObservationId],[.sweepId,.provider,.source]]
  checks := [
    .oneOf .status ["ok","absent","unavailable","error"],
    .or (.equals .status "ok") (.present .reason),
    .or (.equals .status "ok") (.equals .records "[]")]

def ownershipFindings : TableDef Table Column where
  columns := [.required .text .findingId,.required .text .findingKey,.required .text .hostId,
    .required .text .objectId,.required .text .findingType,.required .text .subject,.required .text .status,
    .required .text .intentId,.required .text .ownerProvider,.nullable .text .ownerInstance,
    .nullable .text .ownerLabel,.required .text .confidence,.required .text .evidenceSource,.required .text .reason,
    .nullable .text .providerObservationId,.nullable .text .observationId,.nullable .text .sweepId,
    .required .text .firstSeenAt,.required .text .lastSeenAt,.required .text .updatedAt,.nullable .text .resolvedAt,
    .nullable .text .resolution,.nullable .text .resolvedByProviderObservationId]
  references := [⟨.hostId,.hosts,.hostId⟩,⟨.objectId,.objects,.objectId⟩,⟨.intentId,.intents,.intentId⟩,
    ⟨.providerObservationId,.providerObservations,.providerObservationId⟩,
    ⟨.observationId,.observations,.observationId⟩,⟨.sweepId,.observationSweeps,.sweepId⟩,
    ⟨.resolvedByProviderObservationId,.providerObservations,.providerObservationId⟩]
  uniques := [[.findingId]]
  checks := [
    .oneOf .findingType ["network.interface.ownership_conflict"],
    .oneOf .subject ["created_by","configured_by"],
    .oneOf .status ["open","resolved"],
    .oneOf .confidence ["confirmed","corroborated"],
    .or (.absent .resolution) (.oneOf .resolution ["owner_no_longer_claims","intent_released"]),
    .same (.equals .status "resolved") (.present .resolvedAt),
    .same (.equals .status "resolved") (.present .resolution),
    .or (.absent .resolvedByProviderObservationId) (.equals .resolution "owner_no_longer_claims")]

def intentRevisions : TableDef Table Column where
  columns := [.required .text .revisionId,.required .text .objectId,.required .text .hostId,.required .text .kind,
    .required .text .intentId,.required .text .hostEffect,.required .text .occurredAt]
  references := [⟨.objectId,.objects,.objectId⟩,⟨.hostId,.hosts,.hostId⟩,⟨.intentId,.intents,.intentId⟩]
  uniques := [[.revisionId],[.intentId]]
  checks := [
    .oneOf .kind ["revise","adopt_runtime"],
    .equals .hostEffect "none"]

def findings : TableDef Table Column where
  columns := [.required .text .findingId,.required .text .findingKey,.required .text .hostId,
    .required .text .objectId,.required .text .findingType,.required .text .subject,.required .text .status,
    .required .text .intentId,.required .text .intendedType,.required .integer .intendedValue,
    .nullable .text .observedType,.nullable .integer .observedValue,.required .text .comparison,
    .required .text .reason,.nullable .text .observationId,.nullable .text .sweepId,.required .text .firstSeenAt,
    .required .text .lastSeenAt,.required .text .updatedAt,.nullable .text .resolvedAt,.nullable .text .resolution,
    .nullable .text .resolvedByObservationId]
  references := [⟨.hostId,.hosts,.hostId⟩,⟨.objectId,.objects,.objectId⟩,⟨.intentId,.intents,.intentId⟩,
    ⟨.observationId,.observations,.observationId⟩,⟨.sweepId,.observationSweeps,.sweepId⟩,
    ⟨.resolvedByObservationId,.observations,.observationId⟩]
  uniques := [[.findingId]]
  checks := [
    .oneOf .findingType ["network.interface.drift"],
    .oneOf .status ["open","resolved"],
    .oneOf .intendedType ["boolean","integer"],
    .or (.absent .observedType) (.oneOf .observedType ["boolean","integer"]),
    .oneOf .comparison ["differs","unknown"],
    .or (.absent .resolution) (.oneOf .resolution ["observed_matches_intent","intent_revised","intent_released"]),
    .same (.equals .status "resolved") (.present .resolvedAt),
    .same (.equals .status "resolved") (.present .resolution),
    .same (.absent .observedValue) (.absent .observedType),
    .same (.equals .comparison "unknown") (.absent .observedValue),
    .or (.absent .resolvedByObservationId) (.equals .resolution "observed_matches_intent")]

def managementPathObservations : TableDef Table Column where
  columns := [.required .text .observationId,.required .text .hostId,.required .text .observedAt,
    .nullable .text .agentInstanceId,.required .text .transportPeerAddress,.required .text .transportPeerFamily,
    .required .text .localEndpointAddress,.required .text .localEndpointFamily,.required .text .capability,
    .required .text .provider,.required .text .providerVersion,.required .text .method,.required .text .routeStatus,
    .nullable .text .routeReason,.nullable .text .routeFamily,.nullable .text .routeDestination,
    .nullable .integer .routeDestinationPrefixLength,.nullable .text .routePreferredSource,
    .nullable .text .routeGateway,.nullable .integer .routeOifIndex,.nullable .integer .routeTable,
    .nullable .text .routeType,.nullable .text .routeScope,.nullable .text .routeProtocol,
    .nullable .integer .routePriority,.nullable .text .routeError]
  references := [⟨.hostId,.hosts,.hostId⟩,⟨.agentInstanceId,.agentInstances,.agentInstanceId⟩]
  uniques := [[.observationId]]
  checks := [
    .oneOf .transportPeerFamily ["inet","inet6"],
    .oneOf .localEndpointFamily ["inet","inet6"],
    .oneOf .routeStatus ["resolved","unreachable","failed","unavailable"],
    .or (.absent .routeFamily) (.oneOf .routeFamily ["inet","inet6"]),
    .agree .transportPeerFamily .localEndpointFamily,
    .or (.equals .routeStatus "resolved") (.present .routeReason),
    .or (.equals .routeStatus "resolved") (.absent .routeOifIndex),
    .or (.equals .routeStatus "resolved") (.absent .routePreferredSource),
    .or (.equals .routeStatus "resolved") (.absent .routeGateway),
    .or (.equals .routeStatus "resolved") (.absent .routeDestination)]

def idxAgentInstancesHost : Index Table Column where
  table := .agentInstances
  columns := [.hostId,.lastContactAt]
  unique := false
  filter := none

def idxObjectsHostKind : Index Table Column where
  table := .objects
  columns := [.hostId,.kind,.displayName]
  unique := false
  filter := none

def idxSweepsHostReceived : Index Table Column where
  table := .observationSweeps
  columns := [.hostId,.receivedAt]
  unique := false
  filter := none

def idxObservationsObjectTime : Index Table Column where
  table := .observations
  columns := [.objectId,.observedAt]
  unique := false
  filter := none

def idxObservationsSweep : Index Table Column where
  table := .observations
  columns := [.sweepId]
  unique := false
  filter := none

def idxIntentsObjectVersion : Index Table Column where
  table := .intents
  columns := [.objectId,.version]
  unique := false
  filter := none

def idxTransitionsObjectTime : Index Table Column where
  table := .managementTransitions
  columns := [.objectId,.occurredAt]
  unique := false
  filter := none

def idxProviderObservationsNewest : Index Table Column where
  table := .providerObservations
  columns := [.hostId,.provider,.observedAt]
  unique := false
  filter := none

def idxOwnershipFindingsOneOpenPerKey : Index Table Column where
  table := .ownershipFindings
  columns := [.findingKey]
  unique := true
  filter := some (.equals .status "open")

def idxOwnershipFindingsObject : Index Table Column where
  table := .ownershipFindings
  columns := [.objectId,.status,.firstSeenAt]
  unique := false
  filter := none

def idxOwnershipFindingsHost : Index Table Column where
  table := .ownershipFindings
  columns := [.hostId,.status,.firstSeenAt]
  unique := false
  filter := none

def idxIntentRevisionsObjectTime : Index Table Column where
  table := .intentRevisions
  columns := [.objectId,.occurredAt]
  unique := false
  filter := none

def idxFindingsOneOpenPerKey : Index Table Column where
  table := .findings
  columns := [.findingKey]
  unique := true
  filter := some (.equals .status "open")

def idxFindingsObject : Index Table Column where
  table := .findings
  columns := [.objectId,.status,.firstSeenAt]
  unique := false
  filter := none

def idxFindingsHost : Index Table Column where
  table := .findings
  columns := [.hostId,.status,.firstSeenAt]
  unique := false
  filter := none

def idxManagementPathObservationsMatch : Index Table Column where
  table := .managementPathObservations
  columns := [.hostId,.transportPeerAddress,.localEndpointAddress,.observedAt]
  unique := false
  filter := none

def objectsActiveIntentBelongsToObjectInsert : Trigger Table Column where
  table := .objects
  event := .insert
  condition := .and (.holds (.present (new .activeIntentId))) (.not
    (.any .intents (.and (.agree (first .intentId) (new .activeIntentId))
    (.agree (first .objectId) (new .objectId)))))

def objectsActiveIntentBelongsToObjectUpdate : Trigger Table Column where
  table := .objects
  event := .update [.activeIntentId]
  condition := .and (.holds (.present (new .activeIntentId))) (.not
    (.any .intents (.and (.agree (first .intentId) (new .activeIntentId))
    (.agree (first .objectId) (new .objectId)))))

def managementPathObservationsAreImmutable : Trigger Table Column where
  table := .managementPathObservations
  event := .update []
  condition := .always

end Initial
end Migrations
end LocalPlane
