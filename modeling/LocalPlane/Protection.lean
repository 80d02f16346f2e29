import LocalPlane.Plan
import LocalPlane.StableSort
import Mathlib.Data.String.Basic

/-!
# Why a resource is protected

The roll-up of evaluated reasons, the interface judgement made from this request's
management path, and the lifecycle judgement made from an effect closure.
-/

set_option linter.dupNamespace false

namespace LocalPlane
namespace Planning

open LineProtocol (Json Fields)

def Json.texts (l : List String) : Json := .arr (l.map .str)
def Json.optional : Option String → Json
  | none => .null
  | some s => .str s

/-- Which resource carries the management path right now, or why nothing does. -/
structure ManagementPathVerdict where
  resourceId : Option String
  reason : String
  evidenceId : Option String
  observedAt : Option String
  missingEvidence : List String

def notTheManagementPath : String := "not_the_management_path"
def cannotAffectManagementPath : String := "operation_cannot_affect_management_path"

def ManagementPathVerdict.relation (v : ManagementPathVerdict) (resourceId : String) : ManagementPathRelation :=
  match v.resourceId with
  | none => .unknown
  | some resource => if resource = resourceId then .onManagementPath else .notOnManagementPath

def assessManagementPathReason (v : ManagementPathVerdict) (resourceId : String) (applicable : Bool) :
    ReasonAssessment × ManagementPathRelation :=
  let relation := v.relation resourceId
  let entry (status : ProtectionStatus) (detail : String) : ReasonAssessment :=
    ⟨.managementPath,status,detail,v.evidenceId,v.observedAt,[],[]⟩
  if !applicable then (entry .clear cannotAffectManagementPath,relation)
  else match relation with
    | .onManagementPath => (entry .isProtected v.reason,relation)
    | .notOnManagementPath => (entry .clear notTheManagementPath,relation)
    | .unknown => (entry .unknown v.reason,relation)

/-- A proven reason wins; failing that an unsettled one keeps the answer open. -/
def decisive (first : ReasonAssessment) (rest : List ReasonAssessment) : ProtectionStatus × String :=
  match (first :: rest).find? (·.status = .isProtected) with
  | some e => (.isProtected,e.detail)
  | none =>
    match (first :: rest).find? (·.status = .unknown) with
    | some e => (.unknown,e.detail)
    | none => (.clear,first.detail)

/-- The roll-up of at least one evaluated reason. -/
def rollUpProtection (first : ReasonAssessment) (rest : List ReasonAssessment)
    (managementPath : ManagementPathRelation) (missingEvidence : List String) : ProtectionAssessment :=
  let assessed := first :: rest
  let reasonsOf (status : ProtectionStatus) := (assessed.filter (·.status = status)).map (·.reason)
  let decided := decisive first rest
  ⟨decided.1,reasonsOf .isProtected,reasonsOf .unknown,assessed,managementPath,decided.2,missingEvidence⟩

def assessResourceProtection (v : ManagementPathVerdict) (resourceId : String) (applicable : Bool) :
    ProtectionAssessment :=
  let (reason,relation) := assessManagementPathReason v resourceId applicable
  rollUpProtection reason [] relation (if reason.status = .unknown then v.missingEvidence else [])

def EffectEdge.asDict (e : EffectEdge) : Json :=
  .obj [("source",.str e.source),("relation",.str e.relation),("target",.str e.target)]

namespace SystemdLifecycleContext

variable (c : SystemdLifecycleContext)

def managementIntersection : List String :=
  sorted ((c.effectUnits.filter (· ∈ c.managementUnits)).dedup)

def agentReached : Bool := c.agentUnit.any (· ∈ c.effectUnits)

def managementStatus : ProtectionStatus × String :=
  if c.managementIntersection ≠ [] then (.isProtected,"effect_closure_contains_management_path_unit")
  else if c.managementComplete && c.effectComplete then
    (.clear,"effect_closure_disjoint_from_management_path_units")
  else (.unknown,"management_path_effect_correlation_incomplete")

def agentStatus : ProtectionStatus × String :=
  if c.agentReached then (.isProtected,"effect_closure_contains_localplane_agent_unit")
  else if c.agentComplete && c.effectComplete && c.agentUnit.any (· ≠ "") then
    (.clear,"effect_closure_disjoint_from_localplane_agent_unit")
  else (.unknown,"localplane_agent_effect_correlation_incomplete")

/-- The names are sorted; the edges are listed as they were observed. -/
def evidenceCommon : Fields :=
  [("target_unit",.str c.targetUnit),("action",.str (Spelled.code c.action)),
    ("effect_units",Json.texts (sorted c.effectUnits)),("effect_edges",.arr (c.effectEdges.map (·.asDict))),
    ("effect_complete",.bool c.effectComplete),("context_gaps",Json.texts (sorted c.gaps))]

def missingFor (status : ProtectionStatus) (fallback : String) : List String :=
  if status ≠ .unknown then [] else sorted (if c.gaps = [] then [fallback] else c.gaps)

def managementReason : ReasonAssessment :=
  ⟨.managementPath,c.managementStatus.1,c.managementStatus.2,c.observationId,some c.observedAt,
    c.evidenceCommon ++ [("management_units",Json.texts (sorted c.managementUnits)),
      ("intersection",Json.texts c.managementIntersection),("management_complete",.bool c.managementComplete)],
    c.missingFor c.managementStatus.1 "management_path_unit"⟩

def agentReason : ReasonAssessment :=
  ⟨.localplaneAgent,c.agentStatus.1,c.agentStatus.2,c.observationId,some c.observedAt,
    c.evidenceCommon ++ [("agent_unit",Json.optional c.agentUnit),("agent_complete",.bool c.agentComplete)],
    c.missingFor c.agentStatus.1 "localplane_agent_unit"⟩

end SystemdLifecycleContext

/-- Management-path and agent protection, evaluated independently of each other. -/
def assessLifecycleProtection (c : SystemdLifecycleContext) : ProtectionAssessment :=
  rollUpProtection c.managementReason [c.agentReason] .unknown
    (sorted ((c.managementReason.missingEvidence ++ c.agentReason.missingEvidence).dedup))

end Planning
end LocalPlane
