import LocalPlane.Protection
import LocalPlane.Schema

/-!
# What an apply re-plans and which gates the fresh plan must pass

The policy that judges whether a plan could run, the parts of a fresh plan it is made from
for each kind of operation, and the gate between a fresh plan and the published one.
-/

set_option linter.dupNamespace false

namespace LocalPlane
namespace Planning

/-- What an operation declares about itself, as far as the policy reads it. -/
structure OperationDefinition where
  canAffectManagementPath : Bool
  protectionUsesResourceRelation : Bool
  guardedExecution : Bool
  rollbackPossible : Bool
  recoveryMode : RecoveryMode
  requiredCapability : String

def reconcileMtu : OperationDefinition := ⟨true,true,true,true,.auto,"network.interface.set_mtu"⟩
def containerLifecycle : OperationDefinition := ⟨false,false,false,false,.none,"docker.container.lifecycle"⟩
def systemdLifecycle : OperationDefinition := ⟨true,false,false,false,.none,"systemd.service.lifecycle"⟩

def OperationType.definition : OperationType → OperationDefinition
  | .networkInterfaceReconcileMtu => reconcileMtu
  | .dockerContainerStart | .dockerContainerStop | .dockerContainerRestart => containerLifecycle
  | .systemdServiceStart | .systemdServiceStop | .systemdServiceRestart => systemdLifecycle

def assessProtection (definition : OperationDefinition) (managementPath : ManagementPathVerdict) (resourceId : String) :
    ProtectionAssessment :=
  assessResourceProtection managementPath resourceId definition.canAffectManagementPath

def guardWindowS : Int := 120

def guardPrerequisites : List GuardPrerequisite :=
  [.operationIsReversible,.targetIsProvenManagementPath,.guardCapabilityDeclared,.recoveryMaterialIsArmed,.hostSideGuardAccepted]

def guardGuarantee : String :=
  "a reversal to the value below, held by the agent on this host with a 120s deadline, dispatched with no further " ++
  "request from anybody if nothing proves within that window that this console can still be reached over this object"

/-- Whether guarded execution exists for this plan, and which prerequisite is missing. -/
def assessGuard (definition : OperationDefinition) (protection : ProtectionAssessment) (guardCapabilityDeclared : Bool) :
    GuardPlan :=
  let refuse (reason : String) (unmet : List GuardPrerequisite) : GuardPlan :=
    ⟨.unavailable,reason,guardWindowS,guardPrerequisites,unmet,guardGuarantee⟩
  let reversible := definition.guardedExecution && definition.rollbackPossible && definition.recoveryMode = .auto
  if !definition.canAffectManagementPath || protection.managementPath = .notOnManagementPath then
    refuse "guard_not_required" []
  else if !reversible then refuse "operation_has_no_unattended_reversal" [.operationIsReversible]
  else if protection.managementPath ≠ .onManagementPath then
    refuse "management_path_unproven" [.targetIsProvenManagementPath]
  else if !guardCapabilityDeclared then refuse "guard_capability_undeclared" [.guardCapabilityDeclared]
  else ⟨.available,"guarded_execution_available",guardWindowS,guardPrerequisites,[],guardGuarantee⟩

/-- What stands in the way of a plan whatever it might cut off. -/
def ordinaryBlockers (availability : ExecutionAvailability) (capabilityDeclared : Bool)
    (ownershipBlockReason : Option String) (ownershipGaps : List String) : List String :=
  (if availability ≠ .available then ["execution_not_implemented"] else []) ++
  (if !capabilityDeclared then ["required_capability_undeclared"] else []) ++
  ownershipBlockReason.toList ++
  (if ownershipGaps ≠ [] then ["ownership_evidence_incomplete"] else [])

/-- Two safety models, and the operation says which one judges it. -/
def protectionBlockers (definition : OperationDefinition) (protection : ProtectionAssessment) : List String :=
  if !definition.canAffectManagementPath then []
  else if !definition.protectionUsesResourceRelation then
    match protection.status with
    | .isProtected => protection.reasons.map fun reason => "protected:" ++ Spelled.code reason
    | .unknown => protection.unresolved.map fun reason => "protection_unresolved:" ++ Spelled.code reason
    | .clear => []
  else match protection.managementPath with
    | .onManagementPath => ["target_is_management_path"]
    | .unknown => ["management_path_unproven"]
    | .notOnManagementPath => []

/-- The target is proven to carry this request's path, under the model that asks. -/
def provenOnPath (definition : OperationDefinition) (protection : ProtectionAssessment) : Bool :=
  definition.canAffectManagementPath && definition.protectionUsesResourceRelation &&
    protection.managementPath = .onManagementPath

def selfImpactOverrideBlocker : String := "protected:" ++ Spelled.code ProtectionReason.managementPath

/-- Whether this plan would be allowed to run, and everything standing in the way. -/
def assessExecution (definition : OperationDefinition) (availability : ExecutionAvailability) (provider : Option String)
    (capabilityDeclared : Bool) (ownershipBlockReason : Option String) (ownershipGaps : List String)
    (protection : ProtectionAssessment) (guard : GuardPlan) (selfImpact : Option BackendSelfImpactAssessment) :
    ExecutionAssessment :=
  let ordinary := ordinaryBlockers availability capabilityDeclared ownershipBlockReason ownershipGaps
  let blockers := ordinary ++ protectionBlockers definition protection
  let ordinaryOnly := ordinary.eraseDups
  let protectionOnly := blockers.drop ordinaryOnly.length
  let eligibility : ExecutionEligibility :=
    if blockers = [] then .eligible
    else if provenOnPath definition protection && guard.availability = .available && ordinaryOnly = [] then .guarded
    else if selfImpact.any (·.overrideEligible) && ordinaryOnly = [] && protectionOnly = [selfImpactOverrideBlocker] then
      .selfImpactOverrideRequired
    else .blocked
  ⟨availability,eligibility,blockers.eraseDups,provider,definition.requiredCapability,capabilityDeclared⟩

/-- What is known about a target when it is planned for, but for what differs between operations. -/
structure PlanningContext where
  operation : OperationType
  resourceId : String
  refusal : Option String
  evidenceSources : List String
  ownershipBlockReason : Option String
  ownershipGaps : List String
  managementPath : ManagementPathVerdict
  lifecycle : Option SystemdLifecycleContext
  selfImpact : SystemdLifecycleContext → ProtectionAssessment → BackendSelfImpactAssessment

/-- The parts of a fresh plan its execution is gated on. -/
structure FreshPlan where
  protection : ProtectionAssessment
  guard : GuardPlan
  execution : ExecutionAssessment

namespace PlanningContext

variable (c : PlanningContext)

def declares (capability : String) : Bool := capability ∈ c.evidenceSources

def interfacePlan : FreshPlan :=
  let protection := assessProtection reconcileMtu c.managementPath c.resourceId
  let guard := assessGuard reconcileMtu protection (c.declares "network.interface.mtu_guard")
  ⟨protection,guard,assessExecution reconcileMtu .available (some "linux.link")
    (c.declares reconcileMtu.requiredCapability) c.ownershipBlockReason c.ownershipGaps protection guard none⟩

def containerPlan : FreshPlan :=
  let protection := assessProtection containerLifecycle c.managementPath c.resourceId
  let guard := assessGuard containerLifecycle protection false
  ⟨protection,guard,assessExecution containerLifecycle .available (some "docker")
    (c.declares containerLifecycle.requiredCapability) c.ownershipBlockReason c.ownershipGaps protection guard none⟩

def systemdPlan (lifecycle : SystemdLifecycleContext) : FreshPlan :=
  let protection := assessLifecycleProtection lifecycle
  let guard : GuardPlan := ⟨.unavailable,"operation_has_no_safe_automatic_inverse",0,[],[],
    "no connection guard is offered for systemd lifecycle actions"⟩
  ⟨protection,guard,assessExecution systemdLifecycle .available (some "systemd")
    (c.declares systemdLifecycle.requiredCapability) none [] protection guard (some (c.selfImpact lifecycle protection))⟩

/-- Plan the operation from current truth, or say why it cannot be planned. -/
def replan : Except String FreshPlan :=
  match c.refusal with
  | some code => .error code
  | none =>
    match c.operation with
    | .networkInterfaceReconcileMtu => .ok c.interfacePlan
    | .dockerContainerStart | .dockerContainerStop | .dockerContainerRestart => .ok c.containerPlan
    | .systemdServiceStart | .systemdServiceStop | .systemdServiceRestart =>
      match c.lifecycle with
      | none => .error "systemd_lifecycle_context_missing"
      | some lifecycle => .ok (c.systemdPlan lifecycle)

end PlanningContext

def asksResourceRelation (definition : OperationDefinition) : Bool :=
  definition.canAffectManagementPath && definition.protectionUsesResourceRelation

/-- How the target must stand to the request, by what the published plan says. -/
def requiredRelation (published : Preview) : ManagementPathRelation :=
  if published.isGuarded then .onManagementPath else .notOnManagementPath

/-- The published plan's path is the only one it may take. -/
def permittedEligibility (published : Preview) : ExecutionEligibility :=
  if published.requiresOverride then .selfImpactOverrideRequired
  else if published.isGuarded then .guarded
  else .eligible

def relationRefusal (required relation : ManagementPathRelation) : String :=
  if relation = .unknown then "management_path_unproven"
  else if required = .notOnManagementPath then "target_is_management_path"
  else "target_is_not_management_path"

/-- The refusal of a published plan that does not hold now; `stale` where the documents differ. -/
def planNow (published : Preview) (c : PlanningContext) (stale : Bool) : Option String :=
  match c.replan with
  | .error _ => some "preview_stale"
  | .ok plan =>
    if stale then some "preview_stale"
    else if asksResourceRelation c.operation.definition ∧ plan.protection.managementPath ≠ requiredRelation published then
      some (relationRefusal (requiredRelation published) plan.protection.managementPath)
    else if plan.execution.eligibility ≠ permittedEligibility published then some "execution_blocked"
    else none

end Planning
end LocalPlane
