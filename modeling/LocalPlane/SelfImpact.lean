import LocalPlane.Blockers
import LocalPlane.PreviewStore
import Mathlib.Data.List.Dedup

/-!
# Whether a lifecycle operation could interrupt the backend serving it

Read from the lifecycle context alone. The assessment explains one hazard inside the
protection roll-up, and says whether that hazard is all that stands in the way.
-/

set_option linter.dupNamespace false

namespace LocalPlane
namespace Planning

def selfImpactSubjectBackendRuntime : String := "localplane_backend_runtime"
def hostServiceUnitType : String := "service"
def dockerDirectUnixContract : String := "docker-direct-unix-v1"
def dockerRuntimeOwnerMethodVersion : Int := 1
def dockerRuntimeOwnerProvider : String := "docker"

def SystemdServiceAction.outage : SystemdServiceAction → SelfImpactOutage
  | .start => .none
  | .stop => .indefinitePossible
  | .restart => .temporaryPossible

/-- The correlation names one owner under the one contract an authority could cover. -/
def RuntimeOwnerCorrelation.supported (o : RuntimeOwnerCorrelation) : Bool :=
  o.status = .resolved && o.contractVersion = dockerDirectUnixContract &&
    o.methodVersion = dockerRuntimeOwnerMethodVersion && o.provider = dockerRuntimeOwnerProvider &&
    o.ownerUnitId.any (· ≠ "")

namespace SystemdLifecycleContext

variable (c : SystemdLifecycleContext)

def reaches (unit : Option String) : Bool := unit.any (· ∈ c.effectUnits)

def provenOwner : Option RuntimeOwnerCorrelation := c.runtimeOwner.filter (·.status = .resolved)

/-- Where the backend runs, and whether this closure reaches it. A proven owner answers outright,
then an unproven container, and only then a service that contains the backend directly. -/
def statusOf : SelfImpactStatus × String × Option String :=
  match c.provenOwner with
  | some owner =>
    if c.reaches owner.ownerUnitId then
      (.proven,"effect_closure_contains_proven_backend_runtime_owner",owner.ownerUnitId)
    else (.notDetected,"effect_closure_disjoint_from_proven_backend_runtime_owner",owner.ownerUnitId)
  | none =>
    if runtimeOwnerUmbrellaGap ∈ c.gaps then (.possible,"backend_container_runtime_owner_unproven",none)
    else if c.connectionUnit.isSome ∧ c.connectionUnitType = some hostServiceUnitType then
      if c.reaches c.connectionUnit then (.proven,"effect_closure_contains_backend_service_unit",c.connectionUnit)
      else if c.effectComplete then (.notDetected,"effect_closure_disjoint_from_backend_service_unit",c.connectionUnit)
      else (.unresolved,"backend_runtime_containment_not_established",none)
    else (.unresolved,"backend_runtime_containment_not_established",none)

def agentIsAProvenHostService : Bool :=
  c.agentComplete && c.agentUnit.any (· ≠ "") && c.agentUnitType = some hostServiceUnitType &&
    !c.reaches c.agentUnit && c.effectComplete

end SystemdLifecycleContext

def ProtectionAssessment.reasonIsClear (p : ProtectionAssessment) (reason : ProtectionReason) : Bool :=
  p.assessed.any fun entry => entry.reason = reason && entry.status = .clear

section Ineligibility

variable (c : SystemdLifecycleContext) (protection : ProtectionAssessment)

def ownerIneligibility : List String :=
  match c.runtimeOwner.filter (·.supported) with
  | none => ["runtime_owner_outside_supported_self_impact_envelope"]
  | some owner =>
    if c.managementIntersection.map some ≠ [owner.ownerUnitId] then
      ["effect_closure_touches_management_path_beyond_backend_runtime"]
    else []

def agentIneligibility : List String :=
  if !c.agentIsAProvenHostService then ["localplane_agent_not_proven_outside_closure_as_host_service"]
  else if !protection.reasonIsClear .localplaneAgent then ["localplane_agent_protection_reason_not_clear"]
  else []

def protectionIneligibility : List String :=
  if protection.status ≠ .isProtected then ["protection_status_not_protected:" ++ Spelled.code protection.status]
  else if protection.reasons ≠ [.managementPath] then ["protection_carries_reasons_beyond_the_management_path"]
  else []

/-- Every reason this hazard is not one a single typed authority could cover. -/
def ineligibility (status : SelfImpactStatus) : List String :=
  ((if status ≠ .proven then ["self_impact_status_not_proven:" ++ Spelled.code status] else []) ++
    ownerIneligibility c ++ agentIneligibility c protection ++
    (if c.effectComplete && c.managementComplete && c.agentComplete then [] else ["lifecycle_context_incomplete"]) ++
    (if c.gaps ≠ [] then ["lifecycle_context_carries_unresolved_gaps"] else []) ++
    protectionIneligibility protection).eraseDups

end Ineligibility

/-- Whether this operation reaches the backend serving the request, and how surely. -/
def assessBackendSelfImpact (c : SystemdLifecycleContext) (protection : ProtectionAssessment) :
    BackendSelfImpactAssessment :=
  let (status,detail,ownerUnit) := c.statusOf
  let reasons := ineligibility c protection status
  { subject := selfImpactSubjectBackendRuntime
    status := status
    outage := if status = .proven ∨ status = .possible then c.action.outage else .none
    overrideEligible := reasons = []
    detail := detail
    ownerUnitId := ownerUnit
    envelope := if reasons = [] then some dockerDirectUnixContract else none
    reasons := reasons }

/-- A context that could be built, around a correlation that could be. -/
structure BuiltContext (shapes : RuntimeOwnerCorrelation → Bool) extends SystemdLifecycleContext where
  built : toSystemdLifecycleContext.check = true
  owned : ∀ o ∈ runtimeOwner, o.check shapes = true

section Absence

/-- The same evidence over a larger closure, with flags only cleared. -/
structure Weaker (weaker c : SystemdLifecycleContext) : Prop where
  same : weaker = { c with
    effectUnits := weaker.effectUnits
    effectComplete := weaker.effectComplete
    managementComplete := weaker.managementComplete
    agentComplete := weaker.agentComplete }
  units : c.effectUnits ⊆ weaker.effectUnits
  effect : weaker.effectComplete → c.effectComplete
  management : weaker.managementComplete → c.managementComplete
  agent : weaker.agentComplete → c.agentComplete

/-- The backend is reported out of reach only of a closure that is known whole and misses it, and
evidence that got weaker never reports it out of reach anew. -/
structure AbsenceEarned (c : SystemdLifecycleContext) : Prop where
  complete : ∀ p, (assessBackendSelfImpact c p).status = .notDetected → c.effectComplete
  owner : ∀ p, (assessBackendSelfImpact c p).status = .notDetected → ∀ o ∈ c.runtimeOwner, ¬c.reaches o.ownerUnitId
  connection : ∀ p, (assessBackendSelfImpact c p).status = .notDetected → ¬c.reaches c.connectionUnit
  kept : ∀ weaker, Weaker weaker c → ∀ p p', (assessBackendSelfImpact c p).status ≠ .notDetected →
    (assessBackendSelfImpact weaker p').status ≠ .notDetected

/-- A proven owner that the closure does not list is outside a whole closure, and so is the connection. -/
def OwnerSettled (c : SystemdLifecycleContext) : Prop :=
  ∀ o ∈ c.runtimeOwner, o.status = .resolved → ¬c.reaches o.ownerUnitId → c.effectComplete ∧ ¬c.reaches c.connectionUnit

variable {c weaker : SystemdLifecycleContext}

theorem statusOf_resolved {o : RuntimeOwnerCorrelation} (ho : o ∈ c.runtimeOwner) (hs : o.status = .resolved) :
    c.statusOf.1 = .notDetected ↔ ¬c.reaches o.ownerUnitId := by
  have howner : c.provenOwner = some o := Option.filter_eq_some_iff.mpr ⟨ho,decide_eq_true hs⟩
  simp only [SystemdLifecycleContext.statusOf,howner]
  split <;> simp_all

/-- With no proven owner, only a service that contains the backend is ever out of reach. -/
theorem statusOf_unproven (h : c.provenOwner = none) : c.statusOf.1 = .notDetected ↔
    runtimeOwnerUmbrellaGap ∉ c.gaps ∧ c.connectionUnit.isSome ∧ c.connectionUnitType = some hostServiceUnitType ∧
      ¬c.reaches c.connectionUnit ∧ c.effectComplete := by
  simp only [SystemdLifecycleContext.statusOf,h]
  split_ifs <;> simp_all

theorem Weaker.reaches (h : Weaker weaker c) {unit : Option String} (hr : c.reaches unit) : weaker.reaches unit := by
  cases unit with
  | none => exact hr
  | some unit => exact decide_eq_true (h.units (of_decide_eq_true hr))

theorem Weaker.notDetected (h : Weaker weaker c) (hw : weaker.statusOf.1 = .notDetected) :
    c.statusOf.1 = .notDetected := by
  have howner : weaker.runtimeOwner = c.runtimeOwner := by rw [h.same]
  have hgaps : weaker.gaps = c.gaps := by rw [h.same]
  have hunit : weaker.connectionUnit = c.connectionUnit := by rw [h.same]
  have htype : weaker.connectionUnitType = c.connectionUnitType := by rw [h.same]
  cases hp : c.provenOwner with
  | some o =>
    obtain ⟨ho,hs⟩ := Option.filter_eq_some_iff.mp hp
    have hs' : o.status = .resolved := of_decide_eq_true hs
    have hout := (statusOf_resolved (howner ▸ ho) hs').mp hw
    exact (statusOf_resolved ho hs').mpr fun hr => hout (h.reaches hr)
  | none =>
    have hp' : weaker.provenOwner = none := by rw [SystemdLifecycleContext.provenOwner,howner]; exact hp
    obtain ⟨hgap,hsome,hservice,hout,hcomplete⟩ := (statusOf_unproven hp').mp hw
    rw [hunit] at hsome hout
    exact (statusOf_unproven hp).mpr ⟨hgaps ▸ hgap,hsome,htype ▸ hservice,fun hr => hout (h.reaches hr),h.effect hcomplete⟩

/-- An owner that was not proven names no unit. -/
theorem BuiltContext.ownerUnit_none {shapes : RuntimeOwnerCorrelation → Bool} (c : BuiltContext shapes)
    {o : RuntimeOwnerCorrelation} (ho : o ∈ c.runtimeOwner) (hs : o.status ≠ .resolved) : o.ownerUnitId = none := by
  have hcheck := c.owned o ho
  have hstatus : o.status = .incomplete := by
    cases h : o.status with
    | resolved => exact absurd h hs
    | incomplete => rfl
  unfold RuntimeOwnerCorrelation.check at hcheck
  rw [hstatus] at hcheck
  have hclaimed : o.claimed.all (·.isNone) = true := by
    simp only [Bool.and_eq_true] at hcheck
    exact hcheck.2.1.2
  have hnone := List.all_eq_true.mp hclaimed o.ownerUnitId (by simp [RuntimeOwnerCorrelation.claimed])
  exact Option.isNone_iff_eq_none.mp hnone

/-- Where a proven owner's absence is earned, a status of not detected has a whole closure behind it that holds
neither the owner nor the connection. -/
lemma OwnerSettled.earned {shapes : RuntimeOwnerCorrelation → Bool} {c : BuiltContext shapes}
    (h : OwnerSettled c.toSystemdLifecycleContext)
    (hstatus : c.toSystemdLifecycleContext.statusOf.1 = .notDetected) :
    c.effectComplete = true ∧ (∀ o ∈ c.runtimeOwner, ¬c.reaches o.ownerUnitId) ∧ ¬c.reaches c.connectionUnit := by
  cases hp : c.provenOwner with
  | some o =>
    obtain ⟨ho,hs⟩ := Option.filter_eq_some_iff.mp hp
    have hs' : o.status = .resolved := of_decide_eq_true hs
    have hout := (statusOf_resolved ho hs').mp hstatus
    obtain ⟨hcomplete,hconnection⟩ := h o ho hs' hout
    refine ⟨hcomplete,fun o' ho' => ?_,hconnection⟩
    obtain rfl := Option.mem_unique ho ho'
    exact hout
  | none =>
    obtain ⟨-,-,-,hout,hcomplete⟩ := (statusOf_unproven hp).mp hstatus
    refine ⟨hcomplete,fun o ho => ?_,hout⟩
    have hs : o.status ≠ .resolved := fun hs => by
      have : c.provenOwner = some o := Option.filter_eq_some_iff.mpr ⟨ho,decide_eq_true hs⟩
      rw [hp] at this
      cases this
    rw [c.ownerUnit_none ho hs]
    exact Bool.false_ne_true

/-- Whatever is not a proven owner earns its absence; a proven owner earns it where the closure is whole. -/
theorem absence_earned_iff {shapes : RuntimeOwnerCorrelation → Bool} (c : BuiltContext shapes) :
    AbsenceEarned c.toSystemdLifecycleContext ↔ OwnerSettled c.toSystemdLifecycleContext := by
  constructor
  · intro h o ho hs hout
    have hstatus := (statusOf_resolved ho hs).mpr hout
    exact ⟨h.complete (assessLifecycleProtection c.toSystemdLifecycleContext) hstatus,
      h.connection (assessLifecycleProtection c.toSystemdLifecycleContext) hstatus⟩
  · intro h
    exact ⟨fun _ hs => (h.earned hs).1,fun _ hs => (h.earned hs).2.1,fun _ hs => (h.earned hs).2.2,
      fun _ hw _ _ hne hs => hne (hw.notDetected hs)⟩

/-- A backend in a container whose Engine docker.service owns. -/
def engineOwner : RuntimeOwnerCorrelation where
  contractVersion := dockerDirectUnixContract
  methodVersion := dockerRuntimeOwnerMethodVersion
  provider := dockerRuntimeOwnerProvider
  status := .resolved
  attestationFingerprint := some "sha256:50afba22bb09bf891ab1c35545c0182f3293e02cd6fa1dab5cda58fce402e004"
  endpoint := some "/run/docker.sock"
  containerId := some "0f6f1e6f2a3c4d5e8b7a69584736251400112233445566778899aabbccddeeff"
  containerStartedAt := some "2026-01-01T00:00:00+00:00"
  engineId := some "engine-1"
  directTransportVerified := true
  peerServiceMainVerified := true
  ownerUnitId := some "docker.service"
  ownerInvocationId := some "0123456789abcdef0123456789abcdef"
  executionCgroupRelation := some "equal"
  gaps := []

/-- Such a backend, asked about a unit; the agent is a service beside it. -/
def behindEngine (target : String) (action : SystemdServiceAction) (units gaps : List String) : SystemdLifecycleContext where
  status := if gaps = [] then "complete" else "partial"
  observedAt := "2026-01-01T00:00:00+00:00"
  targetUnit := target
  action := action
  targetFacts := []
  effectUnits := units
  effectEdges := []
  effectComplete := gaps = []
  activeActivationSources := []
  activeUpholdingSources := []
  managementUnits := ["docker-0f6f1e6f.scope","docker.service"]
  managementComplete := true
  connectionUnit := some "docker-0f6f1e6f.scope"
  connectionUnitType := some "scope"
  agentUnit := some "localplane-agent.service"
  agentComplete := true
  agentUnitType := some "service"
  gaps := gaps
  evidence := []
  runtimeOwner := some engineOwner
  observationId := none

def BuiltContext.behindEngine (target : String) (action : SystemdServiceAction) (units gaps : List String) :
    BuiltContext fun _ => true where
  toSystemdLifecycleContext := Planning.behindEngine target action units gaps
  built := rfl
  owned o ho := by
    obtain rfl := Option.some.inj ho
    decide

/-- A walk that its deadline cut short after the target has not listed docker.service, and the stop of what
docker.service may hang on is reported not to reach the backend. -/
theorem cut_walk_clears : ¬∀ (shapes : RuntimeOwnerCorrelation → Bool) (c : BuiltContext shapes),
    AbsenceEarned c.toSystemdLifecycleContext := by
  intro h
  have hcomplete := (h _ (BuiltContext.behindEngine "containerd.service" .stop ["containerd.service"] ["effect_graph.deadline"])).complete
    (assessLifecycleProtection (behindEngine "containerd.service" .stop ["containerd.service"] ["effect_graph.deadline"]))
    (by decide)
  exact absurd hcomplete (by decide)

end Absence

section Override

variable {c : SystemdLifecycleContext}

/-- What has to be proven before an operator may open a path past LocalPlane's own outage. -/
structure OverrideEarned (c : SystemdLifecycleContext) (execution : ExecutionAssessment) : Prop where
  owner : ∃ o ∈ c.runtimeOwner, o.status = .resolved ∧ ∃ unit, o.ownerUnitId = some unit ∧
    ∀ u, u ∈ c.effectUnits ∧ u ∈ c.managementUnits ↔ u = unit
  agent : ∃ unit, c.agentUnit = some unit ∧ unit ≠ "" ∧ c.agentUnitType = some hostServiceUnitType ∧ unit ∉ c.effectUnits
  complete : c.effectComplete ∧ c.managementComplete ∧ c.agentComplete
  gaps : c.gaps = []
  reasons : (assessLifecycleProtection c).reasons = [.managementPath]
  unresolved : (assessLifecycleProtection c).unresolved = []
  blockers : execution.blockers = [selfImpactOverrideBlocker]

theorem mem_managementIntersection {unit : String} :
    unit ∈ c.managementIntersection ↔ unit ∈ c.effectUnits ∧ unit ∈ c.managementUnits := by
  rw [SystemdLifecycleContext.managementIntersection,sorted,SortBy.mem,List.mem_dedup,List.mem_filter,decide_eq_true_eq]

theorem eligible_iff {p : ProtectionAssessment} :
    (assessBackendSelfImpact c p).overrideEligible ↔ ineligibility c p c.statusOf.1 = [] := decide_eq_true_iff

/-- No reason against it means that every part of it was proven. -/
theorem ineligibility_nil {p : ProtectionAssessment} {status : SelfImpactStatus} (h : ineligibility c p status = []) :
    status = .proven ∧ ownerIneligibility c = [] ∧ agentIneligibility c p = [] ∧
      (c.effectComplete ∧ c.managementComplete ∧ c.agentComplete) ∧ c.gaps = [] ∧ protectionIneligibility p = [] := by
  simp only [ineligibility,eraseDups_eq_nil,List.append_eq_nil_iff] at h
  obtain ⟨⟨⟨⟨⟨hstatus,howner⟩,hagent⟩,hcomplete⟩,hgaps⟩,hprotection⟩ := h
  refine ⟨?_,howner,hagent,?_,?_,hprotection⟩
  · by_contra hne
    simp [hne] at hstatus
  · by_contra hne
    simp only [Bool.and_eq_true,and_assoc,hne,if_false,List.cons_ne_nil] at hcomplete
  · by_contra hne
    simp [hne] at hgaps

theorem ownerIneligibility_nil (h : ownerIneligibility c = []) : ∃ o ∈ c.runtimeOwner, o.status = .resolved ∧
    ∃ unit, o.ownerUnitId = some unit ∧ c.managementIntersection = [unit] := by
  unfold ownerIneligibility at h
  cases ho : c.runtimeOwner.filter (·.supported) with
  | none => simp [ho] at h
  | some o =>
    simp only [ho,ite_not,ite_eq_left_iff,List.cons_ne_nil,imp_false,not_not] at h
    obtain ⟨howner,hsupported⟩ := Option.filter_eq_some_iff.mp ho
    simp only [RuntimeOwnerCorrelation.supported,Bool.and_eq_true,decide_eq_true_eq] at hsupported
    obtain ⟨⟨⟨⟨hstatus,-⟩,-⟩,-⟩,-⟩ := hsupported
    obtain ⟨unit,hunits,hunit⟩ := List.map_eq_singleton_iff.mp h
    exact ⟨o,howner,hstatus,unit,hunit.symm,hunits⟩

theorem agentIneligibility_nil {p : ProtectionAssessment} (h : agentIneligibility c p = []) :
    ∃ unit, c.agentUnit = some unit ∧ unit ≠ "" ∧ c.agentUnitType = some hostServiceUnitType ∧ unit ∉ c.effectUnits := by
  unfold agentIneligibility at h
  split_ifs at h with hagent
  simp only [Bool.not_eq_true,Bool.not_eq_false',SystemdLifecycleContext.agentIsAProvenHostService,Bool.and_eq_true,
    decide_eq_true_eq] at hagent
  obtain ⟨⟨⟨⟨-,hne⟩,htype⟩,hout⟩,-⟩ := hagent
  obtain ⟨unit,hunit,hunit'⟩ : ∃ unit, c.agentUnit = some unit ∧ unit ≠ "" := by
    cases hunit : c.agentUnit with
    | none => simp [hunit] at hne
    | some unit => exact ⟨unit,rfl,by simpa [hunit] using hne⟩
  refine ⟨unit,hunit,hunit',htype,fun hmem => ?_⟩
  have hreached : c.reaches c.agentUnit = true := by
    rw [hunit]
    exact decide_eq_true hmem
  rw [hreached] at hout
  exact absurd hout (by decide)

theorem protectionIneligibility_nil {p : ProtectionAssessment} (h : protectionIneligibility p = []) :
    p.reasons = [.managementPath] := by
  unfold protectionIneligibility at h
  split_ifs at h with _ hreasons
  exact not_not.mp hreasons

/-- A closure that misses the agent's proven unit leaves nothing open where the path is proven. -/
theorem unresolved_nil {unit : String} (hunit : c.agentUnit = some unit) (hne : unit ≠ "") (hout : unit ∉ c.effectUnits)
    (heffect : c.effectComplete = true) (hagent : c.agentComplete = true)
    (hreasons : (assessLifecycleProtection c).reasons = [.managementPath]) :
    (assessLifecycleProtection c).unresolved = [] := by
  have hclear : c.agentReason.status = .clear := by
    simp [SystemdLifecycleContext.agentReason,SystemdLifecycleContext.agentStatus,SystemdLifecycleContext.agentReached,
      hunit,hne,hout,heffect,hagent]
  simp only [assessLifecycleProtection,rollUpProtection,List.filter_cons,List.filter_nil,hclear] at hreasons ⊢
  cases hm : c.managementReason.status with
  | isProtected => simp
  | clear => simp [hm] at hreasons
  | unknown => simp [hm] at hreasons

/-- The override opens on LocalPlane's own outage and on nothing else. -/
theorem override_sound (c : SystemdLifecycleContext) (definition : OperationDefinition) (availability : ExecutionAvailability)
    (provider : Option String) (capabilityDeclared : Bool) (blockReason : Option String) (ownershipGaps : List String)
    (guard : GuardPlan)
    (h : (assessExecution definition availability provider capabilityDeclared blockReason ownershipGaps
      (assessLifecycleProtection c) guard (some (assessBackendSelfImpact c (assessLifecycleProtection c)))).eligibility =
        .selfImpactOverrideRequired) :
    OverrideEarned c (assessExecution definition availability provider capabilityDeclared blockReason ownershipGaps
      (assessLifecycleProtection c) guard (some (assessBackendSelfImpact c (assessLifecycleProtection c)))) := by
  obtain ⟨heligible,-,-,hblockers⟩ := override_blockers h
  obtain ⟨-,howner,hagent,hcomplete,hgaps,hprotection⟩ := ineligibility_nil (eligible_iff.mp heligible)
  obtain ⟨o,ho,hstatus,unit,hunit,hintersection⟩ := ownerIneligibility_nil howner
  obtain ⟨agent,hagentUnit,hne,htype,hout⟩ := agentIneligibility_nil hagent
  have hreasons := protectionIneligibility_nil hprotection
  refine ⟨⟨o,ho,hstatus,unit,hunit,fun u => ?_⟩,⟨agent,hagentUnit,hne,htype,hout⟩,hcomplete,hgaps,hreasons,
    unresolved_nil hagentUnit hne hout hcomplete.1 hcomplete.2.2 hreasons,hblockers⟩
  rw [← mem_managementIntersection,hintersection,List.mem_singleton]

/-- A restart of the Engine LocalPlane runs behind is such an outage. -/
theorem override_of_engine : OverrideEarned (behindEngine "docker.service" .restart ["docker.service"] [])
    (assessExecution systemdLifecycle .available (some "systemd") true none []
      (assessLifecycleProtection (behindEngine "docker.service" .restart ["docker.service"] []))
      ⟨.unavailable,"operation_has_no_safe_automatic_inverse",0,[],[],""⟩
      (some (assessBackendSelfImpact (behindEngine "docker.service" .restart ["docker.service"] [])
        (assessLifecycleProtection (behindEngine "docker.service" .restart ["docker.service"] []))))) :=
  override_sound _ _ _ _ _ _ _ _ (by decide)

end Override

end Planning
end LocalPlane
