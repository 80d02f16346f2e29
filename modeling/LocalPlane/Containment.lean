import LocalPlane.ExecutionGate
import LocalPlane.LifecycleReader
import Mathlib.Data.List.Dedup

/-!
# Who is contained in what a lifecycle action may stop

A plan is clear of the management path and of the agent only if neither is contained in
what the action may stop. A service speaks for itself in the closure; any other unit is a
runtime's, and only the proven owner of it speaks for it.
-/

set_option linter.dupNamespace false

namespace LocalPlane

open LineProtocol (Json Fields)
open Planning (SystemdLifecycleContext RuntimeOwnerCorrelation PlanningContext assessLifecycleProtection)

namespace Lifecycle

/-- The request the context was observed for. -/
structure Asked where
  targetUnit : String
  action : Planning.SystemdServiceAction
  connection : Fields
  providers : List String
  evidenceComplete : Bool

def Asked.observed (q : Asked) (s : Sources) : LifecycleContextObservation :=
  observe s q.targetUnit (Spelled.code q.action) q.connection q.providers q.evidenceComplete

/-- The context a backend plans with, field by field what the agent observed. -/
def Asked.context (q : Asked) (s : Sources) (observationId : Option String) : SystemdLifecycleContext :=
  let o := q.observed s
  { status := o.status
    observedAt := o.observedAt
    targetUnit := o.targetUnit
    action := q.action
    targetFacts := o.targetFacts
    effectUnits := o.effectUnits
    effectEdges := o.effectEdges
    effectComplete := o.effectComplete
    activeActivationSources := o.activeActivationSources
    activeUpholdingSources := o.activeUpholdingSources
    managementUnits := o.managementUnits
    managementComplete := o.managementComplete
    connectionUnit := o.connectionUnit
    connectionUnitType := o.connectionUnitType
    agentUnit := o.agentUnit
    agentComplete := o.agentComplete
    agentUnitType := o.agentUnitType
    gaps := o.gaps
    evidence := o.evidence
    runtimeOwner := o.runtimeOwner
    observationId := observationId }

def Asked.graph (q : Asked) (s : Sources) : EffectGraphObservation := s.graph q.targetUnit (Spelled.code q.action)

/-- The accepted socket was matched to one cgroup, and this unit of this type is the one that contains it. -/
def ContainsConnection (s : Sources) (connection : Fields) (path unit : String) (unitType : Option String) : Prop :=
  ∃ query cgroupId, acceptedTuple s connection = some query ∧ (s.lookup query).status = "matched" ∧
    (s.lookup query).cgroupId = some cgroupId ∧ (s.resolveCgroupPath cgroupId).status = "resolved" ∧
    (s.resolveCgroupPath cgroupId).path = some path ∧ (s.resolveControlGroupUnit path).resolved = some unit ∧
    (s.resolveControlGroupUnit path).unitType = unitType

/-- The owner of what runs in a cgroup was proven. -/
def OwnerProven (s : Sources) (path owner : String) : Prop :=
  ∃ correlate, s.correlate = some correlate ∧ (correlate path).status = .resolved ∧ (correlate path).ownerUnitId = some owner

/-- The unit of the connection stays outside what the action may stop. -/
def ConnectionOutside (s : Sources) (q : Asked) : Prop :=
  ∃ path unit unitType, ContainsConnection s q.connection path unit unitType ∧ unit ∉ (q.graph s).units ∧
    (unitType = some "service" ∨ ∃ owner, OwnerProven s path owner ∧ owner ∉ (q.graph s).units)

/-- The unit of the agent does. No owner is looked for but that of the connection, which may be in the same unit. -/
def AgentOutside (s : Sources) (q : Asked) : Prop :=
  ∃ unit, s.resolveCurrentProcessUnit.resolved = some unit ∧ unit ∉ (q.graph s).units ∧
    (s.resolveCurrentProcessUnit.unitType = some "service" ∨
      ∃ path unitType owner, ContainsConnection s q.connection path unit unitType ∧ OwnerProven s path owner ∧
        owner ∉ (q.graph s).units)

/-- Nothing is clear but what a complete closure leaves outside. -/
structure Gated (s : Sources) (q : Asked) (observationId : Option String) : Prop where
  managementPath : (q.context s observationId).managementReason.status = .clear → (q.graph s).complete ∧ ConnectionOutside s q
  agent : (q.context s observationId).agentReason.status = .clear → (q.graph s).complete ∧ AgentOutside s q
  eligible : ∀ planning : PlanningContext,
    (planning.systemdPlan (q.context s observationId)).execution.eligibility = .eligible →
      (q.graph s).complete ∧ ConnectionOutside s q ∧ AgentOutside s q

/-- Where the agent's unit was resolved outside a complete closure, it is a service, or a unit whose owner the
connection's correlation proved to be outside too. -/
def AgentHosted (s : Sources) (q : Asked) : Prop :=
  ∀ unit, (q.graph s).complete → s.resolveCurrentProcessUnit.resolved = some unit → unit ∉ (q.graph s).units →
    s.resolveCurrentProcessUnit.unitType = some "service" ∨
      ∃ path unitType owner, ContainsConnection s q.connection path unit unitType ∧ OwnerProven s path owner ∧
        owner ∉ (q.graph s).units

section Socket

variable {s : Sources} {connection : Fields} {part : ManagementPart} {providers : List String}

theorem resolved_some {r : AgentUnitResolution} {unit : String} (h : r.resolved = some unit) :
    r.canonicalId = some unit ∧ unit ≠ "" := by
  unfold AgentUnitResolution.resolved at h
  split at h
  · obtain ⟨hid,hne⟩ := Option.filter_eq_some_iff.mp h
    exact ⟨hid,of_decide_eq_true hne⟩
  · cases h

theorem socketContext_contains {found : SocketContext} (hs : socketContext s connection = found) (h : found.gap = none) :
    ∃ path unit, found.unit = some unit ∧ found.cgroupPath = some path ∧
      ContainsConnection s connection path unit found.unitType := by
  unfold socketContext at hs
  split at hs
  · subst hs
    cases h
  · next query hquery =>
    dsimp only at hs
    split at hs
    · subst hs
      cases h
    · split at hs
      · subst hs
        cases h
      · next cgroupId hid =>
        split at hs
        · subst hs
          cases h
        · next hmatched =>
          split at hs
          · subst hs
            cases h
          · next path hpath =>
            split at hs
            · subst hs
              cases h
            · next hresolved =>
              split at hs
              · subst hs
                cases h
              · next unit hunit =>
                subst hs
                exact ⟨path,unit,rfl,rfl,query,cgroupId,hquery,not_not.mp hmatched,hid,not_not.mp hresolved,hpath,hunit,rfl⟩

/-- A connection part that is complete found the unit, and the owner where the unit is not a service. -/
theorem connectionPart_complete (hp : connectionPart s connection = part) (h : part.complete = true) :
    ∃ path unit unitType, ContainsConnection s connection path unit unitType ∧ unit ∈ part.units ∧
      (unitType = some "service" ∨ ∃ owner, OwnerProven s path owner ∧ owner ∈ part.units) := by
  unfold connectionPart at hp
  split at hp
  · dsimp only at hp
    split at hp
    · subst hp
      cases h
    · split at hp
      · subst hp
        cases h
      · next hgap =>
        obtain ⟨path,unit,hunit,hpath,hcontains⟩ := socketContext_contains rfl hgap
        split at hp
        · next hservice =>
          subst hp
          exact ⟨path,unit,_,hcontains,by simp [hunit],.inl hservice⟩
        · split at hp
          · next correlate path' hcorrelate hpath' =>
            obtain rfl := Option.some.inj (hpath.symm.trans hpath')
            split at hp
            · next owner hstatus howner =>
              split at hp
              · subst hp
                exact ⟨path,unit,_,hcontains,by simp [hunit],.inr ⟨owner,⟨correlate,hcorrelate,hstatus,howner⟩,by simp⟩⟩
              · subst hp
                cases h
            · subst hp
              cases h
          · subst hp
            cases h
  · subst hp
    cases h

/-- A provider only adds to the path, or leaves it incomplete. -/
theorem addProvider_grows (part : ManagementPart) (provider : String) : (∀ unit ∈ part.units, unit ∈ (addProvider s part provider).units) ∧
    ((addProvider s part provider).complete = true → part.complete = true) := by
  unfold addProvider
  split
  · exact ⟨fun _ h => h,fun h => (nomatch h)⟩
  · split
    · exact ⟨fun _ h => List.mem_append_left _ h,id⟩
    · exact ⟨fun _ h => h,fun h => (nomatch h)⟩

theorem providers_grow (providers : List String) (part : ManagementPart) :
    (∀ unit ∈ part.units, unit ∈ (providers.foldl (addProvider s) part).units) ∧
      ((providers.foldl (addProvider s) part).complete = true → part.complete = true) := by
  induction providers generalizing part with
  | nil => exact ⟨fun _ h => h,id⟩
  | cons provider providers ih =>
    obtain ⟨hunits,hcomplete⟩ := ih (addProvider s part provider)
    obtain ⟨hunits',hcomplete'⟩ := addProvider_grows (s:=s) part provider
    exact ⟨fun unit h => hunits unit (hunits' unit h),fun h => hcomplete' (hcomplete h)⟩

theorem managementPart_complete {evidenceComplete : Bool}
    (h : (managementPart s connection providers evidenceComplete).complete = true) :
    (connectionPart s connection).complete = true ∧
      ∀ unit ∈ (connectionPart s connection).units, unit ∈ (managementPart s connection providers evidenceComplete).units := by
  unfold managementPart at h ⊢
  cases evidenceComplete with
  | true => exact ⟨(providers_grow providers _).2 h,(providers_grow providers _).1⟩
  | false => exact absurd ((providers_grow providers _).2 h) Bool.false_ne_true

end Socket

section Gate

variable {s : Sources} {q : Asked} {observationId : Option String}

theorem management_clear (h : (q.context s observationId).managementReason.status = .clear) :
    (q.graph s).complete = true ∧ ConnectionOutside s q := by
  have hstatus : (q.context s observationId).managementStatus.1 = .clear := h
  unfold SystemdLifecycleContext.managementStatus at hstatus
  split at hstatus
  · cases hstatus
  · next hdisjoint =>
    split at hstatus
    · next hcomplete =>
      obtain ⟨hmanagement,heffect⟩ := Bool.and_eq_true_iff.mp hcomplete
      have houtside : ∀ unit ∈ (managementPart s q.connection q.providers q.evidenceComplete).units, unit ∉ (q.graph s).units :=
        fun unit hunit hclosure => by
          have hmem : unit ∈ (q.context s observationId).managementIntersection :=
            SortBy.mem.mpr (List.mem_dedup.mpr (List.mem_filter.mpr ⟨hclosure,decide_eq_true (SortBy.mem.mpr (List.mem_dedup.mpr hunit))⟩))
          rw [not_not.mp hdisjoint] at hmem
          exact absurd hmem List.not_mem_nil
      obtain ⟨hpart,hunits⟩ := managementPart_complete hmanagement
      obtain ⟨path,unit,unitType,hcontains,hunit,howner⟩ := connectionPart_complete rfl hpart
      refine ⟨heffect,path,unit,unitType,hcontains,houtside _ (hunits _ hunit),howner.imp id ?_⟩
      rintro ⟨owner,hproven,howner⟩
      exact ⟨owner,hproven,houtside _ (hunits _ howner)⟩
    · cases hstatus

theorem agent_clear (h : (q.context s observationId).agentReason.status = .clear) :
    (q.graph s).complete = true ∧ ∃ unit, s.resolveCurrentProcessUnit.resolved = some unit ∧ unit ∉ (q.graph s).units := by
  have hstatus : (q.context s observationId).agentStatus.1 = .clear := h
  unfold SystemdLifecycleContext.agentStatus at hstatus
  split at hstatus
  · cases hstatus
  · next hreached =>
    split at hstatus
    · next hcomplete =>
      obtain ⟨hcomplete,-⟩ := Bool.and_eq_true_iff.mp hcomplete
      obtain ⟨hagent,heffect⟩ := Bool.and_eq_true_iff.mp hcomplete
      obtain ⟨unit,hunit⟩ := Option.isSome_iff_exists.mp hagent
      refine ⟨heffect,unit,hunit,fun hclosure => hreached ?_⟩
      have hid : (q.context s observationId).agentUnit = some unit := (resolved_some hunit).1
      simp only [SystemdLifecycleContext.agentReached,hid,Option.any_some]
      exact decide_eq_true hclosure
    · cases hstatus

/-- What a complete observation that leaves the agent outside is made of. -/
theorem agent_clear_of {unit : String} (hcomplete : (q.graph s).complete = true)
    (hunit : s.resolveCurrentProcessUnit.resolved = some unit) (hout : unit ∉ (q.graph s).units) :
    (q.context s observationId).agentReason.status = .clear := by
  obtain ⟨hid,hne⟩ := resolved_some hunit
  have hagent : (q.context s observationId).agentUnit = some unit := hid
  have hreached : (q.context s observationId).agentReached = false := by
    simp only [SystemdLifecycleContext.agentReached,hagent,Option.any_some]
    exact decide_eq_false hout
  have hresolved : (q.context s observationId).agentComplete = true := Option.isSome_iff_exists.mpr ⟨unit,hunit⟩
  have heffect : (q.context s observationId).effectComplete = true := hcomplete
  show (q.context s observationId).agentStatus.1 = .clear
  simp [SystemdLifecycleContext.agentStatus,hreached,hresolved,heffect,hagent,hne]

/-- A plan without protection blockers is one whose every reason is clear. -/
theorem clear_of_unblocked {first : Planning.ReasonAssessment} {rest : List Planning.ReasonAssessment}
    {relation : ManagementPathRelation} {missing : List String}
    (h : Planning.protectionBlockers Planning.systemdLifecycle (Planning.rollUpProtection first rest relation missing) = []) :
    ∀ e ∈ first :: rest, e.status = .clear := by
  have hlisted : ∀ status e, e ∈ first :: rest → e.status = status →
      ((first :: rest).filter (·.status = status)).map (·.reason) ≠ [] := fun status e he hs hnil => by
    rw [List.map_eq_nil_iff] at hnil
    exact List.not_mem_nil (hnil ▸ List.mem_filter.mpr ⟨he,decide_eq_true hs⟩)
  simp only [Planning.protectionBlockers,Planning.systemdLifecycle,Planning.rollUpProtection,Planning.decisive] at h
  cases hp : (first :: rest).find? (·.status = .isProtected) with
  | some e =>
    have hstatus := List.find?_some hp
    simp only [decide_eq_true_eq] at hstatus
    rw [hp] at h
    simp only [Bool.not_true,Bool.not_false,Bool.false_eq_true,if_false,if_true] at h
    exact absurd (List.map_eq_nil_iff.mp h) (hlisted _ e (List.mem_of_find?_eq_some hp) hstatus)
  | none =>
    cases hu : (first :: rest).find? (·.status = .unknown) with
    | some e =>
      have hstatus := List.find?_some hu
      simp only [decide_eq_true_eq] at hstatus
      rw [hp,hu] at h
      simp only [Bool.not_true,Bool.not_false,Bool.false_eq_true,if_false,if_true] at h
      exact absurd (List.map_eq_nil_iff.mp h) (hlisted _ e (List.mem_of_find?_eq_some hu) hstatus)
    | none =>
      intro e he
      have hnp := List.find?_eq_none.mp hp e he
      have hnu := List.find?_eq_none.mp hu e he
      simp only [decide_eq_true_eq] at hnp hnu
      cases hs : e.status with
      | clear => rfl
      | isProtected => exact absurd hs hnp
      | unknown => exact absurd hs hnu

/-- An eligible plan is one that was assessed clear of both. -/
theorem eligible_clear {planning : PlanningContext} {context : SystemdLifecycleContext}
    (h : (planning.systemdPlan context).execution.eligibility = .eligible) :
    context.managementReason.status = .clear ∧ context.agentReason.status = .clear := by
  have hblockers : Planning.protectionBlockers Planning.systemdLifecycle (assessLifecycleProtection context) = [] := by
    simp only [PlanningContext.systemdPlan,Planning.assessExecution] at h
    split at h
    · next hnone => exact (List.append_eq_nil_iff.mp hnone).2
    · split at h
      · cases h
      · split at h <;> cases h
  have hclear := clear_of_unblocked hblockers
  exact ⟨hclear _ List.mem_cons_self,hclear _ (List.mem_cons_of_mem _ (List.mem_singleton.mpr rfl))⟩

/-- The connection is guarded whatever contains it; the agent only where what contains it speaks for itself. -/
theorem gated_iff_hosted (s : Sources) (q : Asked) (observationId : Option String) : Gated s q observationId ↔ AgentHosted s q := by
  constructor
  · intro h unit hcomplete hunit hout
    obtain ⟨-,unit',hunit',-,hhosted⟩ := h.agent (agent_clear_of hcomplete hunit hout)
    obtain rfl := Option.some.inj (hunit.symm.trans hunit')
    exact hhosted
  · intro h
    have hagent : (q.context s observationId).agentReason.status = .clear → (q.graph s).complete = true ∧ AgentOutside s q :=
      fun hclear => by
        obtain ⟨hcomplete,unit,hunit,hout⟩ := agent_clear hclear
        exact ⟨hcomplete,unit,hunit,hout,h unit hcomplete hunit hout⟩
    refine ⟨management_clear,hagent,fun planning heligible => ?_⟩
    obtain ⟨hm,ha⟩ := eligible_clear heligible
    exact ⟨(management_clear hm).1,(management_clear hm).2,(hagent ha).2⟩

/-- The request comes in over a service, and the agent runs in a container's scope. -/
def scopedAgent : Sources where
  now := "2026-01-01T00:00:00+00:00"
  graph := fun unit _ => ⟨"complete",none,[unit,"docker.service"],[],[],[],[]⟩
  ipAddress := fun _ => some ⟨4,false⟩
  intOf := fun _ => none
  networkNamespaceInode := some 1
  lookup := fun _ => ⟨"matched","matched",some 5⟩
  resolveCgroupPath := fun _ => ⟨"resolved","cgroup_path_resolved",some "/system.slice/localplane.service"⟩
  resolveControlGroupUnit := fun _ => ⟨"resolved",some "localplane.service",some "service",none⟩
  correlate := none
  resolveProviderUnit := fun _ => ⟨"unresolved",none,none,none⟩
  resolveCurrentProcessUnit := ⟨"resolved",some "docker-agent.scope",some "scope",none⟩
  evidence := []

def stopContainerd : Asked :=
  ⟨"containerd.service",.stop,[("backend_netns_inode",.num 1),("family",.str "ipv4"),("peer_ip",.str "192.0.2.7"),
    ("peer_port",.num 50000),("local_ip",.str "192.0.2.1"),("local_port",.num 8443)],[],true⟩

/-- Stopping a unit the agent's container hangs on is assessed clear of the agent. -/
theorem scoped_agent_cleared : ¬∀ (s : Sources) (q : Asked) (observationId : Option String), Gated s q observationId := by
  intro hall
  have hclear : (stopContainerd.context scopedAgent none).agentReason.status = .clear := by decide
  obtain ⟨-,unit,hunit,-,hhosted⟩ := (hall scopedAgent stopContainerd none).agent hclear
  rcases hhosted with hservice | ⟨path,unitType,owner,⟨query,cgroupId,-,-,-,-,-,hconnection,-⟩,-,-⟩
  · exact absurd hservice (by decide)
  · have hagent : scopedAgent.resolveCurrentProcessUnit.resolved = some "docker-agent.scope" := by decide
    have hservice : (scopedAgent.resolveControlGroupUnit path).resolved = some "localplane.service" := by
      show AgentUnitResolution.resolved ⟨"resolved",some "localplane.service",some "service",none⟩ = _
      decide
    have hsame := Option.some.inj ((hunit.symm.trans hagent).symm.trans (hconnection.symm.trans hservice) : some _ = some _)
    exact absurd hsame (by decide)

end Gate

end Lifecycle
end LocalPlane
