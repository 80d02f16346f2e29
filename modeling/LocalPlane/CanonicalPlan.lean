import LocalPlane.Protection
import Mathlib.Data.Prod.Lex

/-!
# The canonical plan

The plan reduced to what makes it this plan, in the shape its digest version defines.
Every section has its own canonical form; what moves without the plan meaning anything
else is left out of all of them.
-/

set_option linter.dupNamespace false

namespace LocalPlane
namespace Planning

open LineProtocol (Json Fields)

def planDigestVersion : ℕ := 6

/-- Names in the one order a set of them is written in. -/
def Json.names (l : List String) : Json := .arr ((sorted l).map .str)

def Json.spelled {α : Type} [Spelled α] (a : α) : Json := .str (Spelled.code a)
def Json.spellings {α : Type} [Spelled α] (l : List α) : Json := Json.names (l.map Spelled.code)

/-- Records in the order of their keys. -/
def Json.keyed {α κ : Type} [LinearOrder κ] (key : α → κ) (value : α → Json) (l : List α) : Json :=
  .arr (sortedValues key value l)

def Controlled.canonical (name : String) : Controlled → Json
  | .boolean current desired => .obj [("kind",.str "field"),("field",.str name),("value_type",.str "boolean"),
      ("current",.bool current),("desired",.bool desired)]
  | .integer current desired => .obj [("kind",.str "field"),("field",.str name),("value_type",.str "integer"),
      ("current",.num current),("desired",.num desired)]

def PlannedChange.canonical : PlannedChange → Json
  | .field name values => values.canonical name
  | .action verb observedState expectedState => .obj [("kind",.str "action"),("action",.str verb),
      ("observed_state",.str observedState),("expected_state",.str expectedState)]

def PlanEvidence.canonical (e : PlanEvidence) : Json :=
  .obj [("intent_id",Json.optional e.intentId),("version",e.intentVersion.elim .null .num),
    ("capability",Json.optional e.intentCapability),("provider",Json.optional e.intentProvider)]

abbrev ClaimKey := String ×ₗ String ×ₗ String

def PublishedClaim.key (c : PublishedClaim) : ClaimKey :=
  toLex (c.relation,toLex (c.provider,c.instanceName.getD ""))

def PublishedClaim.canonical (c : PublishedClaim) : Json :=
  .obj [("relation",.str c.relation),("provider",.str c.provider),("instance",Json.optional c.instanceName),
    ("label",Json.optional c.label),("confidence",.str c.confidence),("external",.bool c.external)]

def OwnershipAssessment.canonical (o : OwnershipAssessment) : Json :=
  .obj [("state",.str o.state),("reason",.str o.reason),
    ("claims",Json.keyed PublishedClaim.key PublishedClaim.canonical o.claims),("gaps",Json.names o.gaps)]

def RiskFactor.canonical (f : RiskFactor) : Json :=
  .obj [("code",.str f.code),("floor",Json.spelled f.floor)]

def RiskAssessment.canonical (r : RiskAssessment) : Json :=
  .obj [("tier",Json.spelled r.tier),("factors",Json.keyed RiskFactor.code RiskFactor.canonical r.factors)]

def ConfirmationRequirement.canonical (c : ConfirmationRequirement) : Json :=
  .obj [("required",.bool c.required),("method",Json.spelled c.method),("source",.str c.source),
    ("reasons",Json.names c.reasons),("token_issued",.bool c.tokenIssued)]

def ExecutionAssessment.canonical (e : ExecutionAssessment) : Json :=
  .obj [("availability",Json.spelled e.availability),("eligibility",Json.spelled e.eligibility),
    ("blockers",Json.names e.blockers),("provider",Json.optional e.provider),
    ("required_capability",.str e.requiredCapability),
    ("capability_declared_by_agent",.bool e.capabilityDeclaredByAgent)]

def RecoveryPlan.canonical (r : RecoveryPlan) : Json :=
  .obj [("mode",Json.spelled r.mode),("rollback_possible",.bool r.rollbackPossible),("armed",.bool r.armed)]

def VerificationPlan.canonical (v : VerificationPlan) : Json :=
  .obj [("capability",.str v.capability),("provider",.str v.provider),("condition",.str v.condition),
    ("executed",.bool v.executed)]

def GuardPlan.canonical (g : GuardPlan) : Json :=
  .obj [("availability",Json.spelled g.availability),("reason",.str g.reason),("window_s",.num g.windowS),
    ("prerequisites",Json.spellings g.prerequisites),("unmet",Json.spellings g.unmet)]

def ReasonAssessment.canonical (e : ReasonAssessment) : Json :=
  .obj [("reason",Json.spelled e.reason),("status",Json.spelled e.status),("detail",.str e.detail),
    ("evidence",.obj e.evidence),("missing_evidence",Json.names e.missingEvidence)]

def ProtectionAssessment.canonical (p : ProtectionAssessment) (version : ℕ) : Json :=
  .obj <|
    [("management_path",Json.spelled p.managementPath),("reason",.str p.reason),
      ("missing_evidence",Json.names p.missingEvidence)] ++
    (if 2 ≤ version then [("status",Json.spelled p.status),("reasons",Json.spellings p.reasons),
      ("unresolved",Json.spellings p.unresolved)] else []) ++
    (if 4 ≤ version then
      [("assessed",Json.keyed (fun e => Spelled.code e.reason) ReasonAssessment.canonical p.assessed)] else [])

def AuthorizationAssessment.asDict (a : AuthorizationAssessment) : Json :=
  .obj [("state",Json.spelled a.state),("exact",.bool a.exactly),("authority",.str a.authority),
    ("decision_point",.str a.decisionPoint),("action_id",.str a.actionId),
    ("canonical_target",.str a.canonicalTarget),("verb",Json.spelled a.verb),("reason",.str a.reason)]

/-- The correlation with its gaps as given, or sorted for the canonical form. -/
def RuntimeOwnerCorrelation.dict (o : RuntimeOwnerCorrelation) (gaps : Json) : Json :=
  .obj [("contract_version",.str o.contractVersion),("method_version",.num o.methodVersion),
    ("provider",.str o.provider),("status",Json.spelled o.status),
    ("attestation_fingerprint",Json.optional o.attestationFingerprint),("endpoint",Json.optional o.endpoint),
    ("container_id",Json.optional o.containerId),("container_started_at",Json.optional o.containerStartedAt),
    ("engine_id",Json.optional o.engineId),("direct_transport_verified",.bool o.directTransportVerified),
    ("peer_service_main_verified",.bool o.peerServiceMainVerified),
    ("owner_unit_id",Json.optional o.ownerUnitId),("owner_invocation_id",Json.optional o.ownerInvocationId),
    ("execution_cgroup_relation",Json.optional o.executionCgroupRelation),("gaps",gaps)]

def RuntimeOwnerCorrelation.asDict (o : RuntimeOwnerCorrelation) : Json := o.dict (Json.texts o.gaps)
def RuntimeOwnerCorrelation.canonical (o : RuntimeOwnerCorrelation) : Json := o.dict (Json.names o.gaps)

def BackendSelfImpactAssessment.dict (s : BackendSelfImpactAssessment) (reasons : Json) : Json :=
  .obj [("subject",.str s.subject),("status",Json.spelled s.status),("outage",Json.spelled s.outage),
    ("override_eligible",.bool s.overrideEligible),("detail",.str s.detail),
    ("owner_unit_id",Json.optional s.ownerUnitId),("envelope",Json.optional s.envelope),("reasons",reasons)]

def BackendSelfImpactAssessment.asDict (s : BackendSelfImpactAssessment) : Json := s.dict (Json.texts s.reasons)
def BackendSelfImpactAssessment.canonical (s : BackendSelfImpactAssessment) : Json :=
  s.dict (Json.names s.reasons)

abbrev EdgeKey := String ×ₗ String ×ₗ String

def EffectEdge.key (e : EffectEdge) : EdgeKey := toLex (e.source,toLex (e.relation,e.target))

def factKeys : List String :=
  ["canonical_id","unit_type","load_state","active_state","sub_state","unit_file_state","can_start",
    "can_stop","refuse_manual_start","refuse_manual_stop","need_daemon_reload","transient","current_job",
    "invocation_id"]

def Json.get (fields : Fields) (key : String) : Json := (fields.lookup key).getD .null

namespace SystemdLifecycleContext

variable (c : SystemdLifecycleContext)

def service : Fields :=
  match c.targetFacts.lookup "service" with
  | some (.obj service) => service
  | _ => []

def applicabilityFacts : Json :=
  .obj (factKeys.map (fun key => (key,Json.get c.targetFacts key)) ++
    [("service",.obj [("type",Json.get c.service "type"),
      ("remain_after_exit",Json.get c.service "remain_after_exit")])])

/-- The safety-significant lifecycle proof, without moving record metadata. -/
def canonical (version : ℕ) : Json :=
  .obj <|
    [("status",.str c.status),("target_unit",.str c.targetUnit),("action",Json.spelled c.action),
      ("target_facts",c.applicabilityFacts),("effect_units",Json.names c.effectUnits),
      ("effect_edges",Json.keyed EffectEdge.key EffectEdge.asDict c.effectEdges),
      ("effect_complete",.bool c.effectComplete),
      ("active_activation_sources",Json.names c.activeActivationSources),
      ("active_upholding_sources",Json.names c.activeUpholdingSources),
      ("management_units",Json.names c.managementUnits),("management_complete",.bool c.managementComplete),
      ("agent_unit",Json.optional c.agentUnit),("agent_complete",.bool c.agentComplete),
      ("gaps",Json.names c.gaps)] ++
    (if 5 ≤ version then [("runtime_owner",c.runtimeOwner.elim .null (·.canonical))] else []) ++
    (if 6 ≤ version then [("connection_unit",Json.optional c.connectionUnit),
      ("connection_unit_type",Json.optional c.connectionUnitType),
      ("agent_unit_type",Json.optional c.agentUnitType)] else [])

end SystemdLifecycleContext

/-- The document a plan's digest is taken of. -/
def RunPlan.canonical (p : RunPlan) (version : ℕ) : Fields :=
  [("digest_version",.num version),("operation",Json.spelled p.operation),
    ("target",.obj [("host_id",.str p.hostId),("object_id",.str p.objectId)]),("change",p.change.canonical),
    ("intent",p.evidence.canonical),("ownership",p.ownership.canonical),
    ("protection",p.protection.canonical version),("risk",p.risk.canonical),
    ("confirmation",p.confirmation.canonical),("execution",p.execution.canonical),
    ("recovery",p.recovery.canonical),("verification",p.verification.canonical)] ++
  (if 3 ≤ version then [("guard",p.guard.canonical)] else []) ++
  (if 4 ≤ version then [("authorization",p.authorization.elim .null (·.asDict)),
    ("lifecycle_context",p.lifecycleContext.elim .null (·.canonical version))] else []) ++
  (if 6 ≤ version then [("self_impact",p.selfImpact.elim .null (·.canonical))] else [])

/-- The digest of a document is the text it is serialised to, hashed; keys are sorted there,
so that a document is known by what it says. -/
def planDigest (hash : Json → String) (p : RunPlan) (version : ℕ) : String :=
  hash (.obj (p.canonical version))

end Planning
end LocalPlane
