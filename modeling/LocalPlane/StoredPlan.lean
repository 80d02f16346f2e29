import LocalPlane.PreviewStore
import LocalPlane.DigestOrder
import LocalPlane.JsonEquality

/-!
# A plan that went through the store

What is rebuilt from a preview row is the plan that was published, up to the order of
two lists and two fields derived from another. Its canonical form is the same under
every digest version, and so is every judgement of its validity.
-/

set_option linter.dupNamespace false

namespace LocalPlane
namespace Planning

open LineProtocol (Json Fields)

/-! Reading what was written -/

/-- One field is read before the ones after it. -/
theorem read_some {α β : Type} {x : Option α} {a : α} {next : α → Option β} {b : β} (hx : x = some a)
    (hn : next a = some b) : (x >>= next) = some b := by rw [hx]; exact hn

theorem text_str (s : String) : Json.text? (.str s) = some s := rfl
theorem flag_bool (b : Bool) : Json.flag? (.bool b) = some b := rfl
theorem num_num (n : Int) : Json.num? (.num n) = some n := rfl
theorem obj_obj (fields : Fields) : Json.obj? (.obj fields) = some fields := rfl

theorem optional_optional (s : Option String) : Json.optional? (Json.optional s) = some s := by
  cases s <;> rfl

theorem spelled_spelled {α : Type} [Spelled α] (a : α) : Json.spelled? (Json.spelled a) = some a :=
  Spelled.read_code a

theorem list_map {α : Type} {item : Json → Option α} {value : α → Json} (l : List α)
    (h : ∀ a ∈ l, item (value a) = some a) : Json.list? item (.arr (l.map value)) = some l := by
  show (l.map value).mapM item = some l
  induction l with
  | nil => rfl
  | cons a l ih =>
    rw [List.map_cons,List.mapM_cons,h a (.head _),ih fun b hb => h b (.tail _ hb)]
    rfl

theorem texts_texts (l : List String) : Json.texts? (Json.texts l) = some l := list_map l fun _ _ => rfl

/-- Names are written in one order and read back in it. -/
theorem spellings_spellings {α : Type} [Spelled α] (l : List α) :
    Json.spellings? (α := α) (Json.spellings l) = some (sortBy Spelled.code l) := by
  have hsorted : sorted (l.map Spelled.code) = (sortBy Spelled.code l).map Spelled.code :=
    (List.map_insertionSort (fun a b => Spelled.code a ≤ Spelled.code b) (· ≤ ·) Spelled.code l
      fun _ _ _ _ => Iff.rfl).symm
  rw [Json.spellings,Json.names,hsorted,List.map_map]
  exact list_map _ fun a _ => spelled_spelled a

theorem spellings_codes {α : Type} [Spelled α] (l : List α) :
    Json.spellings? (Json.texts (l.map Spelled.code)) = some l := by
  rw [Json.texts,List.map_map]
  exact list_map _ fun a _ => spelled_spelled a

theorem claim_roundTrip (c : PublishedClaim) : claimFromDict c.asDict = some c :=
  read_some (obj_obj _) <| read_some (text_str c.relation) <| read_some (text_str c.provider) <|
    read_some (optional_optional c.instanceName) <| read_some (optional_optional c.label) <|
    read_some (text_str c.confidence) <| read_some (flag_bool c.external) rfl

theorem assessment_roundTrip (e : ReasonAssessment) : assessmentFromDict e.asDict = some e :=
  read_some (obj_obj _) <| read_some (spelled_spelled e.reason) <| read_some (spelled_spelled e.status) <|
    read_some (text_str e.detail) <| read_some (optional_optional e.evidenceId) <|
    read_some (optional_optional e.observedAt) <| read_some (obj_obj e.evidence) <|
    read_some (texts_texts e.missingEvidence) rfl

theorem factor_roundTrip (f : RiskFactor) : factorFromDict f.asDict = some f :=
  read_some (obj_obj _) <| read_some (text_str f.code) <| read_some (spelled_spelled f.floor) <|
    read_some (text_str f.detail) rfl

theorem edge_roundTrip (e : EffectEdge) : edgeFromDict e.asDict = some e :=
  read_some (obj_obj _) <| read_some (text_str e.source) <| read_some (text_str e.relation) <|
    read_some (text_str e.target) rfl

theorem authorization_roundTrip (a : AuthorizationAssessment) : AuthorizationAssessment.fromDict a.asDict = some a :=
  read_some (obj_obj _) <| read_some (spelled_spelled a.state) <| read_some (flag_bool a.exactly) <|
    read_some (text_str a.authority) <| read_some (text_str a.decisionPoint) <|
    read_some (text_str a.actionId) <| read_some (text_str a.canonicalTarget) <|
    read_some (spelled_spelled a.verb) <| read_some (text_str a.reason) rfl

theorem selfImpact_roundTrip (s : BackendSelfImpactAssessment) :
    BackendSelfImpactAssessment.fromDict s.asDict = some s :=
  read_some (obj_obj _) <| read_some (text_str s.subject) <| read_some (spelled_spelled s.status) <|
    read_some (spelled_spelled s.outage) <| read_some (flag_bool s.overrideEligible) <|
    read_some (text_str s.detail) <| read_some (optional_optional s.ownerUnitId) <|
    read_some (optional_optional s.envelope) <| read_some (texts_texts s.reasons) rfl

theorem readings_roundTrip (readings : List (String × Option String)) :
    readingsFromDict (readingsDict readings) = some readings := by
  refine read_some (obj_obj _) ?_
  induction readings with
  | nil => rfl
  | cons reading readings ih =>
    rw [List.map_cons,List.mapM_cons,ih,optional_optional]
    rfl

section Checked

variable {shapes : RuntimeOwnerCorrelation → Bool}

theorem runtimeOwner_roundTrip {o : RuntimeOwnerCorrelation} (h : o.check shapes) :
    RuntimeOwnerCorrelation.fromDict shapes o.asDict = some o := by
  refine read_some (obj_obj _) ((if_pos rfl).trans ?_)
  refine read_some (text_str o.contractVersion) <| read_some (num_num o.methodVersion) <|
    read_some (text_str o.provider) <| read_some (spelled_spelled o.status) <|
    read_some (optional_optional o.attestationFingerprint) <| read_some (optional_optional o.endpoint) <|
    read_some (optional_optional o.containerId) <| read_some (optional_optional o.containerStartedAt) <|
    read_some (optional_optional o.engineId) <| read_some (flag_bool o.directTransportVerified) <|
    read_some (flag_bool o.peerServiceMainVerified) <| read_some (optional_optional o.ownerUnitId) <|
    read_some (optional_optional o.ownerInvocationId) <|
    read_some (optional_optional o.executionCgroupRelation) <| read_some (texts_texts o.gaps) ?_
  exact if_pos h

theorem owner_roundTrip {owner : Option RuntimeOwnerCorrelation} (h : ∀ o ∈ owner, o.check shapes) :
    SystemdLifecycleContext.ownerFromDict shapes (owner.elim .null (·.asDict)) = some owner := by
  cases owner with
  | none => rfl
  | some o =>
    show (RuntimeOwnerCorrelation.fromDict shapes o.asDict).map some = some (some o)
    rw [runtimeOwner_roundTrip (h o rfl)]
    rfl

theorem context_roundTrip {c : SystemdLifecycleContext} (hc : c.check) (ho : ∀ o ∈ c.runtimeOwner, o.check shapes) :
    SystemdLifecycleContext.fromDict shapes c.asDict = some c := by
  refine read_some (obj_obj _) <| read_some (text_str c.status) <| read_some (text_str c.observedAt) <|
    read_some (text_str c.targetUnit) <| read_some (spelled_spelled c.action) <|
    read_some (obj_obj c.targetFacts) <| read_some (texts_texts c.effectUnits) <|
    read_some (list_map c.effectEdges fun e _ => edge_roundTrip e) <| read_some (flag_bool c.effectComplete) <|
    read_some (texts_texts c.activeActivationSources) <| read_some (texts_texts c.activeUpholdingSources) <|
    read_some (texts_texts c.managementUnits) <| read_some (flag_bool c.managementComplete) <|
    read_some (optional_optional c.connectionUnit) <| read_some (optional_optional c.connectionUnitType) <|
    read_some (optional_optional c.agentUnit) <| read_some (flag_bool c.agentComplete) <|
    read_some (optional_optional c.agentUnitType) <| read_some (texts_texts c.gaps) <|
    read_some (obj_obj c.evidence) <| read_some (owner_roundTrip ho) <|
    read_some (optional_optional c.observationId) ?_
  exact if_pos hc

theorem flagged_stored (b : Bool) : flagged (stored b) = b := by cases b <;> rfl

theorem change_roundTrip {row : PreviewRow} {change : PlannedChange}
    (hkind : row.changeKind = (changeColumns change).kind) (hfield : row.field = (changeColumns change).field)
    (htype : row.valueType = (changeColumns change).valueType)
    (hcurrent : row.currentValue = (changeColumns change).currentValue)
    (hdesired : row.desiredValue = (changeColumns change).desiredValue)
    (haction : row.action = (changeColumns change).action)
    (hobserved : row.observedState = (changeColumns change).observedState)
    (hexpected : row.expectedState = (changeColumns change).expectedState) :
    changeFromRecord row = some change := by
  unfold changeFromRecord
  rw [hkind,hfield,htype,hcurrent,hdesired,haction,hobserved,hexpected]
  cases change with
  | action verb observed expected => rfl
  | field name values =>
    cases values with
    | boolean current desired =>
      show some (PlannedChange.field name (.boolean (flagged (stored current)) (flagged (stored desired)))) = _
      rw [flagged_stored,flagged_stored]
    | integer current desired => rfl

/-- The order the rebuilt plan lists its reasons in. -/
def ProtectionAssessment.restored (p : ProtectionAssessment) : ProtectionAssessment :=
  { p with reasons := sortBy Spelled.code p.reasons, unresolved := sortBy Spelled.code p.unresolved }

/-- Whether a confirmation can be satisfied is derived from availability, not stored. -/
def ConfirmationRequirement.restored (c : ConfirmationRequirement) (availability : ExecutionAvailability) :
    ConfirmationRequirement :=
  { c with
    satisfiable := availability = .available
    unsatisfiableReason := if availability = .available then none else some "execution_not_implemented" }

def RunPlan.restored (p : RunPlan) : RunPlan :=
  { p with
    protection := p.protection.restored
    confirmation := p.confirmation.restored p.execution.availability }

/-- What every plan a planner publishes satisfies: its lifecycle evidence could be built, and at
least one protection reason was evaluated. -/
structure RunPlan.Published (shapes : RuntimeOwnerCorrelation → Bool) (p : RunPlan) : Prop where
  context : ∀ c ∈ p.lifecycleContext, c.check = true
  owner : ∀ c ∈ p.lifecycleContext, ∀ o ∈ c.runtimeOwner, o.check shapes = true
  assessed : p.protection.assessed ≠ []

theorem section_map {α : Type} {read : Json → Option α} {value : α → Json} {a : Option α}
    (h : ∀ x ∈ a, read (value x) = some x) : section? read (a.map value) = some a := by
  cases a with
  | none => rfl
  | some x =>
    show (read (value x)).map some = some (some x)
    rw [h x rfl]
    rfl

theorem protection_roundTrip {digest publishedAt : String} {p : RunPlan} (h : p.Published shapes) :
    protectionFromRecord (previewRow digest p publishedAt) = some p.protection.restored := by
  refine read_some (spellings_spellings p.protection.reasons) <|
    read_some (spellings_spellings p.protection.unresolved) <|
    read_some (list_map p.protection.assessed fun e _ => assessment_roundTrip e) <|
    read_some (Spelled.read_code p.protection.status) <|
    read_some (Spelled.read_code p.protection.managementPath) <|
    read_some (texts_texts p.protection.missingEvidence) ?_
  have hne : p.protection.assessed.isEmpty = false := by simpa using h.assessed
  simp only [hne,Bool.false_eq_true,if_false]
  rfl

/-- Every published plan is rebuilt from its row. -/
theorem plan_roundTrip {digest publishedAt : String} {p : RunPlan} (h : p.Published shapes) :
    planFromRecord shapes ⟨p.hostId,p.objectId,previewRow digest p publishedAt⟩ = some p.restored := by
  have hchange : changeFromRecord (previewRow digest p publishedAt) = some p.change :=
    change_roundTrip rfl rfl rfl rfl rfl rfl rfl rfl
  refine read_some (Spelled.read_code p.operation) <| read_some hchange <|
    read_some (list_map p.ownership.claims fun c _ => claim_roundTrip c) <|
    read_some (texts_texts p.ownership.gaps) <| read_some (readings_roundTrip p.ownership.readings) <|
    read_some (protection_roundTrip h) <| read_some (Spelled.read_code p.risk.tier) <|
    read_some (list_map p.risk.factors fun f _ => factor_roundTrip f) <|
    read_some (Spelled.read_code p.confirmation.method) <| read_some (texts_texts p.confirmation.reasons) <|
    read_some (Spelled.read_code p.execution.availability) <|
    read_some (Spelled.read_code p.execution.eligibility) <|
    read_some (texts_texts p.execution.blockers) <| read_some (Spelled.read_code p.guard.availability) <|
    read_some (spellings_codes p.guard.prerequisites) <| read_some (spellings_codes p.guard.unmet) <|
    read_some (Spelled.read_code p.recovery.mode) <|
    read_some (section_map fun a _ => authorization_roundTrip a) <|
    read_some (section_map fun c hc => context_roundTrip (h.context c hc) (h.owner c hc)) <|
    read_some (section_map fun s _ => selfImpact_roundTrip s) ?_
  have havailable : (Spelled.code p.execution.availability = Spelled.code ExecutionAvailability.available) =
      (p.execution.availability = .available) := propext ⟨Spelled.apart _ _,congrArg _⟩
  simp only [previewRow,flagged_stored,havailable]
  rfl

end Checked

theorem canonical_restored (p : RunPlan) (version : ℕ) : p.restored.canonical version = p.canonical version := by
  have hprotection : p.protection.restored.canonical version = p.protection.canonical version := by
    simp only [ProtectionAssessment.restored,ProtectionAssessment.canonical,spellings_reordered (SortBy.perm _)]
  have hconfirmation : (p.confirmation.restored p.execution.availability).canonical = p.confirmation.canonical := rfl
  simp only [RunPlan.canonical,RunPlan.restored,hprotection,hconfirmation]

/-! Validity -/

structure ValidityReason where
  code : String
  detail : Fields
  deriving DecidableEq

inductive PlanValidity where
  | current
  | stale (reasons : List ValidityReason)

/-- What planning the same operation again came to. -/
inductive Replanned where
  | plan (plan : RunPlan)
  | refused (code : String) (detail : Fields)

def sectionReasons : List (String × String) :=
  [("change","planned_values_changed"),("intent","intent_replaced"),("ownership","ownership_changed"),
    ("protection","protection_changed"),("authorization","authorization_changed"),
    ("lifecycle_context","lifecycle_context_changed"),("self_impact","self_impact_changed"),
    ("risk","risk_changed"),("confirmation","confirmation_changed"),("execution","execution_changed"),
    ("guard","guard_changed"),("recovery","recovery_changed"),("verification","verification_changed"),
    ("target","target_changed"),("operation","operation_changed")]

/-- The sections a published document renders and a new one renders as another value. -/
def sectionsChanged (was now : Fields) : List ValidityReason :=
  sectionReasons.filterMap fun entry =>
    match was.lookup entry.1 with
    | none => none
    | some before =>
      if before.equals (Json.get now entry.1) then none
      else some ⟨entry.2,[("was",before),("now",Json.get now entry.1)]⟩

/-- Compare a published plan with what planning the same operation would produce now, under the
digest version it was published with. -/
def assessValidity (hash : Json → String) (published : RunPlan) (publishedDigest : String) (version : ℕ) :
    Replanned → PlanValidity
  | .refused code detail => .stale [⟨code,detail⟩]
  | .plan replanned =>
    let currentDigest := planDigest hash replanned version
    if currentDigest = publishedDigest then .current
    else
      let reasons := sectionsChanged (published.canonical version) (replanned.canonical version)
      if reasons.isEmpty then
        .stale [⟨"plan_digest_changed",[("published",.str publishedDigest),("current",.str currentDigest)]⟩]
      else .stale reasons

theorem sectionsChanged_self (document : Fields) : sectionsChanged document document = [] := by
  refine List.filterMap_eq_nil_iff.mpr fun entry _ => ?_
  cases h : document.lookup entry.1 with
  | none => rfl
  | some before => exact if_pos (by rw [Json.get,h]; exact Json.equals_self _)

/-- A published plan that went through the store is the plan it was: rebuilt from its row it has
the same canonical form and digest under every version, and every replanning of it is judged the same. -/
theorem store_roundTrip {shapes : RuntimeOwnerCorrelation → Bool} {hash : Json → String} {p : RunPlan}
    (h : p.Published shapes) (publishedAt : String) :
    ∃ q, planFromRecord shapes
        ⟨p.hostId,p.objectId,previewRow (planDigest hash p planDigestVersion) p publishedAt⟩ = some q ∧
      (∀ version, q.canonical version = p.canonical version) ∧
      planDigest hash q planDigestVersion =
        (previewRow (planDigest hash p planDigestVersion) p publishedAt).previewDigest ∧
      (∀ version digest replanned, assessValidity hash q digest version replanned =
        assessValidity hash p digest version replanned) ∧
      (∀ version, sectionsChanged (q.canonical version) (p.canonical version) = []) ∧
      assessValidity hash q (previewRow (planDigest hash p planDigestVersion) p publishedAt).previewDigest
        (previewRow (planDigest hash p planDigestVersion) p publishedAt).digestVersion (.plan p) = .current := by
  have hcanonical := canonical_restored p
  refine ⟨p.restored,plan_roundTrip h,hcanonical,?_,fun version digest replanned => ?_,fun version => ?_,?_⟩
  · show hash (.obj (p.restored.canonical planDigestVersion)) = hash (.obj (p.canonical planDigestVersion))
    rw [hcanonical]
  · cases replanned with
    | refused code detail => rfl
    | plan replanned => simp only [assessValidity,hcanonical]
  · rw [hcanonical]
    exact sectionsChanged_self _
  · exact if_pos rfl

/-- A backend in a container whose owner no attestation proves. -/
def unprovenOwner : RuntimeOwnerCorrelation where
  contractVersion := "docker-direct-unix-v1"
  methodVersion := 1
  provider := "docker"
  status := .incomplete
  attestationFingerprint := none
  endpoint := none
  containerId := none
  containerStartedAt := none
  engineId := none
  directTransportVerified := false
  peerServiceMainVerified := false
  ownerUnitId := none
  ownerInvocationId := none
  executionCgroupRelation := none
  gaps := ["management_path.runtime_owner.container_not_found"]

def containerContext : SystemdLifecycleContext :=
  { RunPlan.observedEdges [⟨"web.service","Wants","db.service"⟩] with
    managementComplete := false
    gaps := [runtimeOwnerUmbrellaGap,"management_path.runtime_owner.container_not_found"]
    runtimeOwner := some unprovenOwner }

theorem container_published : (RunPlan.restartOf containerContext).Published fun _ => true where
  context c hc := by
    obtain rfl : containerContext = c := Option.some.inj hc
    decide
  owner c hc o ho := by
    obtain rfl : containerContext = c := Option.some.inj hc
    obtain rfl : unprovenOwner = o := Option.some.inj ho
    decide
  assessed := by simp [RunPlan.restartOf,assessLifecycleProtection,rollUpProtection]

/-- A restart planned from inside such a container is rebuilt as the plan that was published. -/
theorem container_roundTrip : ∃ q, planFromRecord (fun _ => true)
    ⟨"host-1","object-1",previewRow (planDigest (fun _ => "sha256:unit") (RunPlan.restartOf containerContext) planDigestVersion)
      (RunPlan.restartOf containerContext) "2026-01-01T00:00:01Z"⟩ = some q ∧
    ∀ version, q.canonical version = (RunPlan.restartOf containerContext).canonical version := by
  obtain ⟨q,hq,hcanonical,_⟩ := store_roundTrip container_published "2026-01-01T00:00:01Z"
  exact ⟨q,hq,hcanonical⟩

end Planning
end LocalPlane
