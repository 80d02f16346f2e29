import LocalPlane.CanonicalPlan

/-!
# The preview row

A published plan as the columns of its preview, and the plan rebuilt from them. A JSON
column holds the value its text encodes, a boolean column an integer. What is read back
passes the same checks as what was written.
-/

set_option linter.dupNamespace false

namespace LocalPlane
namespace Planning

open LineProtocol (Json Fields)

structure PreviewRow where
  previewDigest : String
  digestVersion : ℕ
  operation : String
  changeKind : String
  field : Option String
  valueType : Option String
  currentValue : Option Int
  desiredValue : Option Int
  action : Option String
  observedState : Option String
  expectedState : Option String
  intentId : Option String
  intentVersion : Option Int
  intentCapability : Option String
  intentProvider : Option String
  observationId : String
  sweepId : String
  observedAt : String
  driftFindingId : Option String
  ownershipState : String
  ownershipReason : String
  ownershipClaims : Json
  ownershipGaps : Json
  providerReadings : Json
  protectionStatus : String
  protectionReasons : Json
  protectionUnresolved : Json
  protectionManagementPath : String
  protectionReason : String
  protectionMissingEvidence : Json
  protectionEvidenceId : Option String
  protectionEvidenceObservedAt : Option String
  protectionAssessments : Json
  authorizationAssessment : Option Json
  lifecycleContext : Option Json
  selfImpact : Option Json
  riskTier : String
  riskFactors : Json
  confirmationRequired : Int
  confirmationMethod : String
  confirmationSource : String
  confirmationReasons : Json
  confirmationPolicy : String
  confirmationTokenIssued : Int
  executionAvailability : String
  executionEligibility : String
  executionBlockers : Json
  executionProvider : Option String
  requiredCapability : String
  capabilityDeclared : Int
  guardAvailability : String
  guardReason : String
  guardWindowS : Int
  guardPrerequisites : Json
  guardUnmet : Json
  guardGuarantee : String
  guardArmed : Int
  recoveryMode : String
  recoveryRollbackPossible : Int
  recoveryArmed : Int
  recoveryGuarantee : String
  recoveryReason : String
  verificationCapability : String
  verificationProvider : String
  verificationCondition : String
  verificationExecuted : Int
  publishedAt : String

/-- The Run a preview belongs to and the preview itself, as one read joins them. -/
structure RunRow where
  hostId : String
  objectId : String
  preview : PreviewRow

/-! Writing -/

def stored (b : Bool) : Int := if b then 1 else 0
def flagged (column : Int) : Bool := column ≠ 0

def changeKindAction : String := "action"
def changeKindField : String := "field"

def PublishedClaim.asDict (c : PublishedClaim) : Json := c.canonical

def ReasonAssessment.asDict (e : ReasonAssessment) : Json :=
  .obj [("reason",Json.spelled e.reason),("status",Json.spelled e.status),("detail",.str e.detail),
    ("evidence_id",Json.optional e.evidenceId),("observed_at",Json.optional e.observedAt),
    ("evidence",.obj e.evidence),("missing_evidence",Json.texts e.missingEvidence)]

def RiskFactor.asDict (f : RiskFactor) : Json :=
  .obj [("code",.str f.code),("floor",Json.spelled f.floor),("detail",.str f.detail)]

def SystemdLifecycleContext.asDict (c : SystemdLifecycleContext) : Json :=
  .obj [("status",.str c.status),("observed_at",.str c.observedAt),("target_unit",.str c.targetUnit),
    ("action",Json.spelled c.action),("target_facts",.obj c.targetFacts),
    ("effect_units",Json.texts c.effectUnits),("effect_edges",.arr (c.effectEdges.map (·.asDict))),
    ("effect_complete",.bool c.effectComplete),
    ("active_activation_sources",Json.texts c.activeActivationSources),
    ("active_upholding_sources",Json.texts c.activeUpholdingSources),
    ("management_units",Json.texts c.managementUnits),("management_complete",.bool c.managementComplete),
    ("connection_unit",Json.optional c.connectionUnit),
    ("connection_unit_type",Json.optional c.connectionUnitType),("agent_unit",Json.optional c.agentUnit),
    ("agent_complete",.bool c.agentComplete),("agent_unit_type",Json.optional c.agentUnitType),
    ("gaps",Json.texts c.gaps),("evidence",.obj c.evidence),
    ("runtime_owner",c.runtimeOwner.elim .null (·.asDict)),("observation_id",Json.optional c.observationId)]

/-- The record the decisive reason was assessed from, when there is one. -/
def ProtectionAssessment.recorded (p : ProtectionAssessment) : Option ReasonAssessment :=
  p.assessed.find? (·.evidenceId.isSome)

def readingsDict (readings : List (String × Option String)) : Json :=
  .obj (readings.map fun reading => (reading.1,Json.optional reading.2))

/-- The columns of whichever half the change belongs to; the other half is null. -/
structure ChangeColumns where
  kind : String
  field : Option String
  valueType : Option String
  currentValue : Option Int
  desiredValue : Option Int
  action : Option String
  observedState : Option String
  expectedState : Option String

def changeColumns : PlannedChange → ChangeColumns
  | .action verb observed expected =>
    ⟨changeKindAction,none,none,none,none,some verb,some observed,some expected⟩
  | .field name (.boolean current desired) =>
    ⟨changeKindField,some name,some "boolean",some (stored current),some (stored desired),none,none,none⟩
  | .field name (.integer current desired) =>
    ⟨changeKindField,some name,some "integer",some current,some desired,none,none,none⟩

/-- Everything the digest covers is stored, so that recomputing it needs the row and nothing else. -/
def previewRow (digest : String) (plan : RunPlan) (publishedAt : String) : PreviewRow :=
  let change := changeColumns plan.change
  { previewDigest := digest
    digestVersion := planDigestVersion
    operation := Spelled.code plan.operation
    changeKind := change.kind
    field := change.field
    valueType := change.valueType
    currentValue := change.currentValue
    desiredValue := change.desiredValue
    action := change.action
    observedState := change.observedState
    expectedState := change.expectedState
    intentId := plan.evidence.intentId
    intentVersion := plan.evidence.intentVersion
    intentCapability := plan.evidence.intentCapability
    intentProvider := plan.evidence.intentProvider
    observationId := plan.evidence.observationId
    sweepId := plan.evidence.sweepId
    observedAt := plan.evidence.observedAt
    driftFindingId := plan.evidence.driftFindingId
    ownershipState := plan.ownership.state
    ownershipReason := plan.ownership.reason
    ownershipClaims := .arr (plan.ownership.claims.map (·.asDict))
    ownershipGaps := Json.texts plan.ownership.gaps
    providerReadings := readingsDict plan.ownership.readings
    protectionStatus := Spelled.code plan.protection.status
    protectionReasons := Json.spellings plan.protection.reasons
    protectionUnresolved := Json.spellings plan.protection.unresolved
    protectionManagementPath := Spelled.code plan.protection.managementPath
    protectionReason := plan.protection.reason
    protectionMissingEvidence := Json.texts plan.protection.missingEvidence
    protectionEvidenceId :=
      if plan.lifecycleContext.isSome then none else plan.protection.recorded.bind (·.evidenceId)
    protectionEvidenceObservedAt :=
      if plan.lifecycleContext.isSome then none else plan.protection.recorded.bind (·.observedAt)
    protectionAssessments := .arr (plan.protection.assessed.map (·.asDict))
    authorizationAssessment := plan.authorization.map (·.asDict)
    lifecycleContext := plan.lifecycleContext.map (·.asDict)
    selfImpact := plan.selfImpact.map (·.asDict)
    riskTier := Spelled.code plan.risk.tier
    riskFactors := .arr (plan.risk.factors.map (·.asDict))
    confirmationRequired := stored plan.confirmation.required
    confirmationMethod := Spelled.code plan.confirmation.method
    confirmationSource := plan.confirmation.source
    confirmationReasons := Json.texts plan.confirmation.reasons
    confirmationPolicy := plan.confirmation.policy
    confirmationTokenIssued := stored plan.confirmation.tokenIssued
    executionAvailability := Spelled.code plan.execution.availability
    executionEligibility := Spelled.code plan.execution.eligibility
    executionBlockers := Json.texts plan.execution.blockers
    executionProvider := plan.execution.provider
    requiredCapability := plan.execution.requiredCapability
    capabilityDeclared := stored plan.execution.capabilityDeclaredByAgent
    guardAvailability := Spelled.code plan.guard.availability
    guardReason := plan.guard.reason
    guardWindowS := plan.guard.windowS
    guardPrerequisites := Json.texts (plan.guard.prerequisites.map Spelled.code)
    guardUnmet := Json.texts (plan.guard.unmet.map Spelled.code)
    guardGuarantee := plan.guard.guarantee
    guardArmed := 0
    recoveryMode := Spelled.code plan.recovery.mode
    recoveryRollbackPossible := stored plan.recovery.rollbackPossible
    recoveryArmed := stored plan.recovery.armed
    recoveryGuarantee := plan.recovery.guarantee
    recoveryReason := plan.recovery.reason
    verificationCapability := plan.verification.capability
    verificationProvider := plan.verification.provider
    verificationCondition := plan.verification.condition
    verificationExecuted := stored plan.verification.executed
    publishedAt }

/-! Reading -/

def Json.text? : Json → Option String
  | .str s => some s
  | _ => none

def Json.flag? : Json → Option Bool
  | .bool b => some b
  | _ => none

def Json.num? : Json → Option Int
  | .num n => some n
  | _ => none

def Json.optional? : Json → Option (Option String)
  | .null => some none
  | .str s => some (some s)
  | _ => none

def Json.obj? : Json → Option Fields
  | .obj fields => some fields
  | _ => none

def Json.list? {α : Type} (item : Json → Option α) : Json → Option (List α)
  | .arr items => items.mapM item
  | _ => none

def Json.texts? : Json → Option (List String) := Json.list? Json.text?

/-- Nothing outside a closed vocabulary is read back. -/
def Json.spelled? {α : Type} [Spelled α] (j : Json) : Option α := (Json.text? j).bind Spelled.read

def Json.spellings? {α : Type} [Spelled α] : Json → Option (List α) := Json.list? Json.spelled?

def claimFromDict (j : Json) : Option PublishedClaim := do
  let c ← Json.obj? j
  return ⟨← Json.text? (Json.get c "relation"),← Json.text? (Json.get c "provider"),
    ← Json.optional? (Json.get c "instance"),← Json.optional? (Json.get c "label"),
    ← Json.text? (Json.get c "confidence"),← Json.flag? (Json.get c "external")⟩

def assessmentFromDict (j : Json) : Option ReasonAssessment := do
  let e ← Json.obj? j
  return ⟨← Json.spelled? (Json.get e "reason"),← Json.spelled? (Json.get e "status"),
    ← Json.text? (Json.get e "detail"),← Json.optional? (Json.get e "evidence_id"),
    ← Json.optional? (Json.get e "observed_at"),← Json.obj? (Json.get e "evidence"),
    ← Json.texts? (Json.get e "missing_evidence")⟩

def factorFromDict (j : Json) : Option RiskFactor := do
  let f ← Json.obj? j
  return ⟨← Json.text? (Json.get f "code"),← Json.spelled? (Json.get f "floor"),
    ← Json.text? (Json.get f "detail")⟩

def readingsFromDict (j : Json) : Option (List (String × Option String)) := do
  let fields ← Json.obj? j
  fields.mapM fun reading => (Json.optional? reading.2).map fun text => (reading.1,text)

def AuthorizationAssessment.fromDict (j : Json) : Option AuthorizationAssessment := do
  let a ← Json.obj? j
  return ⟨← Json.spelled? (Json.get a "state"),← Json.flag? (Json.get a "exact"),
    ← Json.text? (Json.get a "authority"),← Json.text? (Json.get a "decision_point"),
    ← Json.text? (Json.get a "action_id"),← Json.text? (Json.get a "canonical_target"),
    ← Json.spelled? (Json.get a "verb"),← Json.text? (Json.get a "reason")⟩

def edgeFromDict (j : Json) : Option EffectEdge := do
  let e ← Json.obj? j
  return ⟨← Json.text? (Json.get e "source"),← Json.text? (Json.get e "relation"),
    ← Json.text? (Json.get e "target")⟩

def BackendSelfImpactAssessment.fromDict (j : Json) : Option BackendSelfImpactAssessment := do
  let s ← Json.obj? j
  return ⟨← Json.text? (Json.get s "subject"),← Json.spelled? (Json.get s "status"),
    ← Json.spelled? (Json.get s "outage"),← Json.flag? (Json.get s "override_eligible"),
    ← Json.text? (Json.get s "detail"),← Json.optional? (Json.get s "owner_unit_id"),
    ← Json.optional? (Json.get s "envelope"),← Json.texts? (Json.get s "reasons")⟩

def runtimeOwnerGaps : List String :=
  ["attestation_unavailable","attestation_untrusted","attestation_changed","direct_transport_unproven",
    "peer_pidfd_unavailable","peer_process_exited","daemon_process_unattested","daemon_unit_unresolved",
    "daemon_unit_mismatch","daemon_main_pid_mismatch","socket_activation_unsupported",
    "engine_snapshot_changed","transport_reconnected","container_enumeration_incomplete",
    "container_not_found","container_ambiguous","container_changed","pid_namespace_mismatch",
    "cgroup_namespace_mismatch"].map ("management_path.runtime_owner." ++ ·)

def runtimeOwnerUmbrellaGap : String := "management_path.runtime_owner_unproven"

section Checked

-- whether the texts of a correlation have the shapes it asks of them: its regular expressions
-- and its date, which are the language's own
variable (shapes : RuntimeOwnerCorrelation → Bool)

namespace RuntimeOwnerCorrelation

variable (o : RuntimeOwnerCorrelation)

def proven : List (Option String) :=
  [o.attestationFingerprint,o.endpoint,o.containerId,o.containerStartedAt,o.engineId,o.ownerUnitId,
    o.ownerInvocationId,o.executionCgroupRelation]

def claimed : List (Option String) :=
  [o.containerId,o.containerStartedAt,o.engineId,o.ownerUnitId,o.ownerInvocationId,o.executionCgroupRelation]

/-- What a correlation is refused for when it is built. -/
def check : Bool :=
  o.contractVersion = "docker-direct-unix-v1" && o.methodVersion = 1 && o.provider = "docker" &&
  o.gaps.all (· ∈ runtimeOwnerGaps) && sorted o.gaps.dedup = o.gaps &&
  o.executionCgroupRelation.all (· ∈ ["equal","ancestor"]) && shapes o &&
  match o.status with
  | .resolved => o.proven.all (·.any (· ≠ "")) && o.directTransportVerified && o.peerServiceMainVerified && o.gaps = []
  | .incomplete => !o.directTransportVerified && !o.peerServiceMainVerified && o.claimed.all (·.isNone) && o.gaps ≠ []

def keys : List String :=
  ["contract_version","method_version","provider","status","attestation_fingerprint","endpoint","container_id",
    "container_started_at","engine_id","direct_transport_verified","peer_service_main_verified","owner_unit_id",
    "owner_invocation_id","execution_cgroup_relation","gaps"]

def fromDict (j : Json) : Option RuntimeOwnerCorrelation := do
  let o ← Json.obj? j
  if sorted (o.map (·.1)) = sorted keys then
    let owner : RuntimeOwnerCorrelation :=
      ⟨← Json.text? (Json.get o "contract_version"),← Json.num? (Json.get o "method_version"),
        ← Json.text? (Json.get o "provider"),← Json.spelled? (Json.get o "status"),
        ← Json.optional? (Json.get o "attestation_fingerprint"),← Json.optional? (Json.get o "endpoint"),
        ← Json.optional? (Json.get o "container_id"),← Json.optional? (Json.get o "container_started_at"),
        ← Json.optional? (Json.get o "engine_id"),← Json.flag? (Json.get o "direct_transport_verified"),
        ← Json.flag? (Json.get o "peer_service_main_verified"),← Json.optional? (Json.get o "owner_unit_id"),
        ← Json.optional? (Json.get o "owner_invocation_id"),
        ← Json.optional? (Json.get o "execution_cgroup_relation"),← Json.texts? (Json.get o "gaps")⟩
    if owner.check shapes then return owner else none
  else none

end RuntimeOwnerCorrelation

namespace SystemdLifecycleContext

variable (c : SystemdLifecycleContext)

/-- What a context is refused for when it is built around a correlation. -/
def check : Bool := c.runtimeOwner.all fun owner =>
  match owner.status with
  | .resolved => owner.ownerUnitId.any (· ∈ c.managementUnits)
  | .incomplete => !c.managementComplete && runtimeOwnerUmbrellaGap ∈ c.gaps && owner.gaps.all (· ∈ c.gaps)

def ownerFromDict : Json → Option (Option RuntimeOwnerCorrelation)
  | .null => some none
  | j => (RuntimeOwnerCorrelation.fromDict shapes j).map some

def fromDict (j : Json) : Option SystemdLifecycleContext := do
  let c ← Json.obj? j
  let context : SystemdLifecycleContext :=
    ⟨← Json.text? (Json.get c "status"),← Json.text? (Json.get c "observed_at"),
      ← Json.text? (Json.get c "target_unit"),← Json.spelled? (Json.get c "action"),
      ← Json.obj? (Json.get c "target_facts"),← Json.texts? (Json.get c "effect_units"),
      ← Json.list? edgeFromDict (Json.get c "effect_edges"),← Json.flag? (Json.get c "effect_complete"),
      ← Json.texts? (Json.get c "active_activation_sources"),
      ← Json.texts? (Json.get c "active_upholding_sources"),← Json.texts? (Json.get c "management_units"),
      ← Json.flag? (Json.get c "management_complete"),← Json.optional? (Json.get c "connection_unit"),
      ← Json.optional? (Json.get c "connection_unit_type"),← Json.optional? (Json.get c "agent_unit"),
      ← Json.flag? (Json.get c "agent_complete"),← Json.optional? (Json.get c "agent_unit_type"),
      ← Json.texts? (Json.get c "gaps"),← Json.obj? (Json.get c "evidence"),
      ← ownerFromDict shapes (Json.get c "runtime_owner"),← Json.optional? (Json.get c "observation_id")⟩
  if context.check then return context else none

end SystemdLifecycleContext

/-- An optional section: absent stays absent. -/
def section? {α : Type} (read : Json → Option α) : Option Json → Option (Option α)
  | none => some none
  | some j => (read j).map some

/-- Read from the discriminator rather than by probing for nulls. -/
def changeFromRecord (p : PreviewRow) : Option PlannedChange :=
  if p.changeKind = changeKindAction then
    some (.action (p.action.getD "") (p.observedState.getD "") (p.expectedState.getD ""))
  else
    let current := p.currentValue.getD 0
    let desired := p.desiredValue.getD 0
    match p.valueType with
    | some "boolean" => some (.field (p.field.getD "") (.boolean (flagged current) (flagged desired)))
    | some "integer" => some (.field (p.field.getD "") (.integer current desired))
    | _ => none

/-- Rows written before the assessments were stored carry only which list each reason is in. -/
def assessedFromLists (p : PreviewRow) (reasons unresolved : List ProtectionReason) : List ReasonAssessment :=
  let listed := reasons ++ unresolved
  (if listed = [] then [.managementPath] else listed).map fun reason =>
    ⟨reason,if reason ∈ reasons then .isProtected else if reason ∈ unresolved then .unknown else .clear,
      p.protectionReason,p.protectionEvidenceId,p.protectionEvidenceObservedAt,[],[]⟩

def protectionFromRecord (p : PreviewRow) : Option ProtectionAssessment := do
  let reasons ← Json.spellings? p.protectionReasons
  let unresolved ← Json.spellings? p.protectionUnresolved
  let entries ← Json.list? assessmentFromDict p.protectionAssessments
  return ⟨← Spelled.read p.protectionStatus,reasons,unresolved,
    if entries.isEmpty then assessedFromLists p reasons unresolved else entries,
    ← Spelled.read p.protectionManagementPath,p.protectionReason,← Json.texts? p.protectionMissingEvidence⟩

/-- The inverse of `previewRow`; a row this build cannot read raises. -/
def planFromRecord (run : RunRow) : Option RunPlan := do
  let p := run.preview
  let available := p.executionAvailability = Spelled.code ExecutionAvailability.available
  return {
    operation := ← Spelled.read p.operation
    hostId := run.hostId
    objectId := run.objectId
    change := ← changeFromRecord p
    evidence := ⟨p.observationId,p.sweepId,p.observedAt,p.driftFindingId,p.intentId,p.intentVersion,
      p.intentCapability,p.intentProvider⟩
    ownership := ⟨p.ownershipState,p.ownershipReason,← Json.list? claimFromDict p.ownershipClaims,
      ← Json.texts? p.ownershipGaps,← readingsFromDict p.providerReadings⟩
    protection := ← protectionFromRecord p
    risk := ⟨← Spelled.read p.riskTier,← Json.list? factorFromDict p.riskFactors⟩
    confirmation := ⟨flagged p.confirmationRequired,← Spelled.read p.confirmationMethod,p.confirmationSource,
      ← Json.texts? p.confirmationReasons,p.confirmationPolicy,flagged p.confirmationTokenIssued,available,
      if available then none else some "execution_not_implemented"⟩
    execution := ⟨← Spelled.read p.executionAvailability,← Spelled.read p.executionEligibility,
      ← Json.texts? p.executionBlockers,p.executionProvider,p.requiredCapability,flagged p.capabilityDeclared⟩
    guard := ⟨← Spelled.read p.guardAvailability,p.guardReason,p.guardWindowS,
      ← Json.spellings? p.guardPrerequisites,← Json.spellings? p.guardUnmet,p.guardGuarantee⟩
    recovery := ⟨← Spelled.read p.recoveryMode,flagged p.recoveryRollbackPossible,flagged p.recoveryArmed,
      p.recoveryGuarantee,p.recoveryReason⟩
    verification := ⟨flagged p.verificationExecuted,p.verificationCapability,p.verificationProvider,
      p.verificationCondition⟩
    authorization := ← section? AuthorizationAssessment.fromDict p.authorizationAssessment
    lifecycleContext := ← section? (SystemdLifecycleContext.fromDict shapes) p.lifecycleContext
    selfImpact := ← section? BackendSelfImpactAssessment.fromDict p.selfImpact }

end Checked

end Planning
end LocalPlane
