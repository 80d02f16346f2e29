import LocalPlane.Outcomes
import LocalPlane.LineProtocol

/-!
# The plan a preview publishes

Every section of a plan with all it carries: what is hashed into its identity, what is
only shown, and what names the records it was made from. Closed vocabularies are
enumerations that know how they are spelled.
-/

set_option linter.dupNamespace false

namespace LocalPlane

/-- A closed vocabulary and the text each of its members is stored as. -/
class Spelled (α : Type) where
  all : List α
  code : α → String
  complete : ∀ a, a ∈ all
  apart : ∀ a b, code a = code b → a = b

namespace Spelled

variable {α : Type} [Spelled α]

/-- Nothing outside the vocabulary is read. -/
def read (s : String) : Option α := (all : List α).find? (code · = s)

@[simp] theorem read_code (a : α) : read (code a) = some a := by
  unfold read
  cases h : (all : List α).find? (code · = code a) with
  | none => simpa using List.find?_eq_none.mp h a (complete a)
  | some b => exact congrArg some (apart b a (by simpa using List.find?_some h))

end Spelled

namespace Planning

open LineProtocol (Json Fields)

inductive OperationType where
  | networkInterfaceReconcileMtu | dockerContainerStart | dockerContainerStop | dockerContainerRestart
  | systemdServiceStart | systemdServiceStop | systemdServiceRestart
  deriving DecidableEq

instance : Spelled OperationType where
  all := [.networkInterfaceReconcileMtu,.dockerContainerStart,.dockerContainerStop,.dockerContainerRestart,
    .systemdServiceStart,.systemdServiceStop,.systemdServiceRestart]
  code
    | .networkInterfaceReconcileMtu => "network.interface.reconcile_mtu"
    | .dockerContainerStart => "docker.container.start"
    | .dockerContainerStop => "docker.container.stop"
    | .dockerContainerRestart => "docker.container.restart"
    | .systemdServiceStart => "systemd.service.start"
    | .systemdServiceStop => "systemd.service.stop"
    | .systemdServiceRestart => "systemd.service.restart"
  complete a := by cases a <;> simp
  apart a b := by cases a <;> cases b <;> simp

inductive RiskTier where
  | low | medium | high
  deriving DecidableEq

instance : Spelled RiskTier where
  all := [.low,.medium,.high]
  code
    | .low => "low"
    | .medium => "medium"
    | .high => "high"
  complete a := by cases a <;> simp
  apart a b := by cases a <;> cases b <;> simp

instance : Spelled ConfirmationMethod where
  all := [.none,.acknowledge,.typed]
  code
    | .none => "none"
    | .acknowledge => "acknowledge"
    | .typed => "typed"
  complete a := by cases a <;> simp
  apart a b := by cases a <;> cases b <;> simp

instance : Spelled ExecutionAvailability where
  all := [.available,.unavailable,.notImplemented]
  code
    | .available => "available"
    | .unavailable => "unavailable"
    | .notImplemented => "not_implemented"
  complete a := by cases a <;> simp
  apart a b := by cases a <;> cases b <;> simp

instance : Spelled ExecutionEligibility where
  all := [.eligible,.guarded,.selfImpactOverrideRequired,.blocked]
  code
    | .eligible => "eligible"
    | .guarded => "guarded"
    | .selfImpactOverrideRequired => "self_impact_override_required"
    | .blocked => "blocked"
  complete a := by cases a <;> simp
  apart a b := by cases a <;> cases b <;> simp

instance : Spelled ManagementPathRelation where
  all := [.onManagementPath,.notOnManagementPath,.unknown]
  code
    | .onManagementPath => "on_management_path"
    | .notOnManagementPath => "not_on_management_path"
    | .unknown => "unknown"
  complete a := by cases a <;> simp
  apart a b := by cases a <;> cases b <;> simp

inductive GuardAvailability where
  | available | unavailable
  deriving DecidableEq

instance : Spelled GuardAvailability where
  all := [.available,.unavailable]
  code
    | .available => "available"
    | .unavailable => "unavailable"
  complete a := by cases a <;> simp
  apart a b := by cases a <;> cases b <;> simp

inductive GuardPrerequisite where
  | operationIsReversible | targetIsProvenManagementPath | recoveryMaterialIsArmed
  | guardCapabilityDeclared | hostSideGuardAccepted
  deriving DecidableEq

instance : Spelled GuardPrerequisite where
  all := [.operationIsReversible,.targetIsProvenManagementPath,.recoveryMaterialIsArmed,
    .guardCapabilityDeclared,.hostSideGuardAccepted]
  code
    | .operationIsReversible => "operation_is_reversible"
    | .targetIsProvenManagementPath => "target_is_proven_management_path"
    | .recoveryMaterialIsArmed => "recovery_material_is_armed"
    | .guardCapabilityDeclared => "guard_capability_declared"
    | .hostSideGuardAccepted => "host_side_guard_accepted"
  complete a := by cases a <;> simp
  apart a b := by cases a <;> cases b <;> simp

inductive RecoveryMode where
  | auto | operator | none
  deriving DecidableEq

instance : Spelled RecoveryMode where
  all := [.auto,.operator,.none]
  code
    | .auto => "auto"
    | .operator => "operator"
    | .none => "none"
  complete a := by cases a <;> simp
  apart a b := by cases a <;> cases b <;> simp

inductive ProtectionStatus where
  | isProtected | clear | unknown
  deriving DecidableEq

instance : Spelled ProtectionStatus where
  all := [.isProtected,.clear,.unknown]
  code
    | .isProtected => "protected"
    | .clear => "clear"
    | .unknown => "unknown"
  complete a := by cases a <;> simp
  apart a b := by cases a <;> cases b <;> simp

inductive ProtectionReason where
  | managementPath | localplaneAgent
  deriving DecidableEq

instance : Spelled ProtectionReason where
  all := [.managementPath,.localplaneAgent]
  code
    | .managementPath => "management_path"
    | .localplaneAgent => "localplane_agent"
  complete a := by cases a <;> simp
  apart a b := by cases a <;> cases b <;> simp

inductive SystemdServiceAction where
  | start | stop | restart
  deriving DecidableEq

instance : Spelled SystemdServiceAction where
  all := [.start,.stop,.restart]
  code
    | .start => "start"
    | .stop => "stop"
    | .restart => "restart"
  complete a := by cases a <;> simp
  apart a b := by cases a <;> cases b <;> simp

inductive AuthorizationState where
  | notPreflighted
  deriving DecidableEq

instance : Spelled AuthorizationState where
  all := [.notPreflighted]
  code | .notPreflighted => "not_preflighted"
  complete a := by cases a; simp
  apart a b _ := by cases a; cases b; rfl

inductive RuntimeOwnerStatus where
  | resolved | incomplete
  deriving DecidableEq

instance : Spelled RuntimeOwnerStatus where
  all := [.resolved,.incomplete]
  code
    | .resolved => "resolved"
    | .incomplete => "incomplete"
  complete a := by cases a <;> simp
  apart a b := by cases a <;> cases b <;> simp

inductive SelfImpactStatus where
  | notDetected | proven | possible | unresolved
  deriving DecidableEq

instance : Spelled SelfImpactStatus where
  all := [.notDetected,.proven,.possible,.unresolved]
  code
    | .notDetected => "not_detected"
    | .proven => "proven"
    | .possible => "possible"
    | .unresolved => "unresolved"
  complete a := by cases a <;> simp
  apart a b := by cases a <;> cases b <;> simp

inductive SelfImpactOutage where
  | none | temporaryPossible | indefinitePossible
  deriving DecidableEq

instance : Spelled SelfImpactOutage where
  all := [.none,.temporaryPossible,.indefinitePossible]
  code
    | .none => "none"
    | .temporaryPossible => "temporary_possible"
    | .indefinitePossible => "indefinite_possible"
  complete a := by cases a <;> simp
  apart a b := by cases a <;> cases b <;> simp

/-- Both ends of a field change; one type reads them both. -/
inductive Controlled where
  | boolean (current desired : Bool)
  | integer (current desired : Int)

/-- One controlled field with both ends stated, or one declared verb. -/
inductive PlannedChange where
  | field (name : String) (values : Controlled)
  | action (verb observedState expectedState : String)

structure PublishedClaim where
  relation : String
  provider : String
  instanceName : Option String
  label : Option String
  confidence : String
  external : Bool
  deriving DecidableEq

structure OwnershipAssessment where
  state : String
  reason : String
  claims : List PublishedClaim
  gaps : List String
  readings : List (String × Option String)

structure RiskFactor where
  code : String
  floor : RiskTier
  detail : String

structure RiskAssessment where
  tier : RiskTier
  factors : List RiskFactor

structure ConfirmationRequirement where
  required : Bool
  method : ConfirmationMethod
  source : String
  reasons : List String
  policy : String
  tokenIssued : Bool
  satisfiable : Bool
  unsatisfiableReason : Option String

structure ExecutionAssessment where
  availability : ExecutionAvailability
  eligibility : ExecutionEligibility
  blockers : List String
  provider : Option String
  requiredCapability : String
  capabilityDeclaredByAgent : Bool

structure GuardPlan where
  availability : GuardAvailability
  reason : String
  windowS : Int
  prerequisites : List GuardPrerequisite
  unmet : List GuardPrerequisite
  guarantee : String

structure RecoveryPlan where
  mode : RecoveryMode
  rollbackPossible : Bool
  armed : Bool
  guarantee : String
  reason : String

structure VerificationPlan where
  executed : Bool
  capability : String
  provider : String
  condition : String

structure PlanEvidence where
  observationId : String
  sweepId : String
  observedAt : String
  driftFindingId : Option String := none
  intentId : Option String := none
  intentVersion : Option Int := none
  intentCapability : Option String := none
  intentProvider : Option String := none

/-- One protection reason, evaluated against one resource. -/
structure ReasonAssessment where
  reason : ProtectionReason
  status : ProtectionStatus
  detail : String
  evidenceId : Option String
  observedAt : Option String
  evidence : Fields
  missingEvidence : List String

structure ProtectionAssessment where
  status : ProtectionStatus
  reasons : List ProtectionReason
  unresolved : List ProtectionReason
  assessed : List ReasonAssessment
  managementPath : ManagementPathRelation
  reason : String
  missingEvidence : List String

structure AuthorizationAssessment where
  state : AuthorizationState
  exactly : Bool
  authority : String
  decisionPoint : String
  actionId : String
  canonicalTarget : String
  verb : SystemdServiceAction
  reason : String

structure RuntimeOwnerCorrelation where
  contractVersion : String
  methodVersion : Int
  provider : String
  status : RuntimeOwnerStatus
  attestationFingerprint : Option String
  endpoint : Option String
  containerId : Option String
  containerStartedAt : Option String
  engineId : Option String
  directTransportVerified : Bool
  peerServiceMainVerified : Bool
  ownerUnitId : Option String
  ownerInvocationId : Option String
  executionCgroupRelation : Option String
  gaps : List String

structure EffectEdge where
  source : String
  relation : String
  target : String
  deriving DecidableEq

/-- One fresh, bounded read used to plan a lifecycle action. -/
structure SystemdLifecycleContext where
  status : String
  observedAt : String
  targetUnit : String
  action : SystemdServiceAction
  targetFacts : Fields
  effectUnits : List String
  effectEdges : List EffectEdge
  effectComplete : Bool
  activeActivationSources : List String
  activeUpholdingSources : List String
  managementUnits : List String
  managementComplete : Bool
  connectionUnit : Option String
  connectionUnitType : Option String
  agentUnit : Option String
  agentComplete : Bool
  agentUnitType : Option String
  gaps : List String
  evidence : Fields
  runtimeOwner : Option RuntimeOwnerCorrelation
  observationId : Option String

structure BackendSelfImpactAssessment where
  subject : String
  status : SelfImpactStatus
  outage : SelfImpactOutage
  overrideEligible : Bool
  detail : String
  ownerUnitId : Option String
  envelope : Option String
  reasons : List String

structure RunPlan where
  operation : OperationType
  hostId : String
  objectId : String
  change : PlannedChange
  evidence : PlanEvidence
  ownership : OwnershipAssessment
  protection : ProtectionAssessment
  risk : RiskAssessment
  confirmation : ConfirmationRequirement
  execution : ExecutionAssessment
  guard : GuardPlan
  recovery : RecoveryPlan
  verification : VerificationPlan
  authorization : Option AuthorizationAssessment
  lifecycleContext : Option SystemdLifecycleContext
  selfImpact : Option BackendSelfImpactAssessment

end Planning
end LocalPlane
