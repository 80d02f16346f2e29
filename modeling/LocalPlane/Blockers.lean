import LocalPlane.ExecutionGate

/-!
# What stands in the way of a plan

Every blocker of an execution assessment is an ordinary one or one of its protection. The
protection part answers for one safety model only, and under the typed model for one status.
-/

set_option linter.dupNamespace false

namespace LocalPlane
namespace Planning

/-- Why ownership forbids acting on a target. -/
inductive OwnershipBlock where
  | conflictingOwnershipClaims | externallyConfigured | externallyCreated
  deriving DecidableEq

def OwnershipBlock.code : OwnershipBlock → String
  | .conflictingOwnershipClaims => "conflicting_ownership_claims"
  | .externallyConfigured => "externally_configured"
  | .externallyCreated => "externally_created"

def TellsProven (blockers : List String) (reason : ProtectionReason) : Prop :=
  "protected:" ++ Spelled.code reason ∈ blockers ∨ reason = .managementPath ∧ "target_is_management_path" ∈ blockers

def TellsUnresolved (blockers : List String) (reason : ProtectionReason) : Prop :=
  "protection_unresolved:" ++ Spelled.code reason ∈ blockers ∨ reason = .managementPath ∧ "management_path_unproven" ∈ blockers

/-- What an assessment says of a plan: each of its protection's reasons, and a way past the blockers
only where they are what that way is for. -/
structure BlockersComplete (definition : OperationDefinition) (protection : ProtectionAssessment) (guard : GuardPlan)
    (selfImpact : Option BackendSelfImpactAssessment) (execution : ExecutionAssessment) : Prop where
  proven : ∀ reason ∈ protection.reasons, TellsProven execution.blockers reason
  unresolved : ∀ reason ∈ protection.unresolved, TellsUnresolved execution.blockers reason
  eligible : execution.eligibility = .eligible ↔ execution.blockers = []
  guarded : execution.eligibility = .guarded → provenOnPath definition protection ∧ guard.availability = .available ∧
    execution.blockers = ["target_is_management_path"]
  override : execution.eligibility = .selfImpactOverrideRequired → selfImpact.any (·.overrideEligible) ∧
    execution.blockers = [selfImpactOverrideBlocker]

/-- The safety model that judges the operation has a word for every reason the protection carries. -/
def Told (definition : OperationDefinition) (protection : ProtectionAssessment) : Prop :=
  if definition.canAffectManagementPath = false then protection.reasons = [] ∧ protection.unresolved = []
  else if definition.protectionUsesResourceRelation = false then
    match protection.status with
    | .isProtected => protection.unresolved = []
    | .unknown => protection.reasons = []
    | .clear => protection.reasons = [] ∧ protection.unresolved = []
  else (∀ reason ∈ protection.reasons, reason = .managementPath ∧ protection.managementPath = .onManagementPath) ∧
    ∀ reason ∈ protection.unresolved, reason = .managementPath ∧ protection.managementPath = .unknown

theorem eraseDups_eq_nil {l : List String} : l.eraseDups = [] ↔ l = [] := by
  cases l <;> simp [List.eraseDups_cons]

def ordinaryCodes : List String :=
  ["execution_not_implemented","required_capability_undeclared","conflicting_ownership_claims","externally_configured",
    "externally_created","ownership_evidence_incomplete"]

section Execution

variable {definition : OperationDefinition} {availability : ExecutionAvailability} {provider : Option String}
  {capabilityDeclared : Bool} {blockReason : Option String} {ownership : Option OwnershipBlock} {ownershipGaps : List String}
  {protection : ProtectionAssessment} {guard : GuardPlan} {selfImpact : Option BackendSelfImpactAssessment}
  {blocker : String}

theorem mem_blockers : blocker ∈ (assessExecution definition availability provider capabilityDeclared blockReason
      ownershipGaps protection guard selfImpact).blockers ↔
    blocker ∈ ordinaryBlockers availability capabilityDeclared blockReason ownershipGaps ∨
      blocker ∈ protectionBlockers definition protection := by
  simp only [assessExecution,List.mem_eraseDups,List.mem_append]

theorem eligible_iff_unblocked : (assessExecution definition availability provider capabilityDeclared blockReason
      ownershipGaps protection guard selfImpact).eligibility = .eligible ↔
    (assessExecution definition availability provider capabilityDeclared blockReason
      ownershipGaps protection guard selfImpact).blockers = [] := by
  simp only [assessExecution,eraseDups_eq_nil]
  split_ifs <;> simp_all

/-- A guarded plan is blocked by the proven path alone. -/
theorem guarded_blockers (h : (assessExecution definition availability provider capabilityDeclared blockReason
      ownershipGaps protection guard selfImpact).eligibility = .guarded) :
    provenOnPath definition protection ∧ guard.availability = .available ∧
      (assessExecution definition availability provider capabilityDeclared blockReason
        ownershipGaps protection guard selfImpact).blockers = ["target_is_management_path"] := by
  simp only [assessExecution] at h ⊢
  split at h
  · cases h
  · split at h
    · next hpath =>
      simp only [Bool.and_eq_true,decide_eq_true_eq,eraseDups_eq_nil] at hpath
      obtain ⟨⟨hproven,hguard⟩,hordinary⟩ := hpath
      refine ⟨hproven,hguard,?_⟩
      simp only [provenOnPath,Bool.and_eq_true,decide_eq_true_eq] at hproven
      obtain ⟨⟨haffects,hrelation⟩,hon⟩ := hproven
      have hblockers : protectionBlockers definition protection = ["target_is_management_path"] := by
        simp [protectionBlockers,haffects,hrelation,hon]
      rw [hordinary,hblockers]
      rfl
    · split at h <;> cases h

/-- A plan that wants an override is blocked by the proven management path alone, under the typed model. -/
theorem override_blockers (h : (assessExecution definition availability provider capabilityDeclared blockReason
      ownershipGaps protection guard selfImpact).eligibility = .selfImpactOverrideRequired) :
    selfImpact.any (·.overrideEligible) ∧ ordinaryBlockers availability capabilityDeclared blockReason ownershipGaps = [] ∧
      protectionBlockers definition protection = [selfImpactOverrideBlocker] ∧
      (assessExecution definition availability provider capabilityDeclared blockReason
        ownershipGaps protection guard selfImpact).blockers = [selfImpactOverrideBlocker] := by
  simp only [assessExecution] at h ⊢
  split at h
  · cases h
  · split at h
    · cases h
    · split at h
      · next hoverride =>
        simp only [Bool.and_eq_true,decide_eq_true_eq,eraseDups_eq_nil] at hoverride
        obtain ⟨⟨heligible,hordinary⟩,hprotection⟩ := hoverride
        rw [hordinary] at hprotection ⊢
        simp only [List.nil_append,List.eraseDups_nil,List.length_nil,List.drop_zero] at hprotection
        exact ⟨heligible,rfl,hprotection,by rw [hprotection]; rfl⟩
      · cases h

theorem ordinary_codes (h : blocker ∈ ordinaryBlockers availability capabilityDeclared (ownership.map OwnershipBlock.code)
    ownershipGaps) : blocker ∈ ordinaryCodes := by
  simp only [ordinaryBlockers,List.mem_append] at h
  rcases h with ((h | h) | h) | h
  · split_ifs at h <;> simp_all [ordinaryCodes]
  · split_ifs at h <;> simp_all [ordinaryCodes]
  · cases ownership with
    | none => simp at h
    | some block =>
      cases block <;> simp_all [ordinaryCodes,OwnershipBlock.code]
  · split_ifs at h <;> simp_all [ordinaryCodes]

def protectionCodes : List String :=
  ["protected:management_path","protected:localplane_agent","protection_unresolved:management_path",
    "protection_unresolved:localplane_agent","target_is_management_path","management_path_unproven"]

theorem proven_code (reason : ProtectionReason) : "protected:" ++ Spelled.code reason ∈ protectionCodes := by
  cases reason <;> decide

theorem unresolved_code (reason : ProtectionReason) : "protection_unresolved:" ++ Spelled.code reason ∈ protectionCodes := by
  cases reason <;> decide

/-- What says a protection reason comes from the protection. -/
theorem mem_protectionBlockers (hcode : blocker ∈ protectionCodes) :
    blocker ∈ (assessExecution definition availability provider capabilityDeclared (ownership.map OwnershipBlock.code)
      ownershipGaps protection guard selfImpact).blockers ↔ blocker ∈ protectionBlockers definition protection := by
  have hapart : ∀ code ∈ protectionCodes, code ∉ ordinaryCodes := by decide
  rw [mem_blockers]
  exact ⟨fun h => h.resolve_left fun hordinary => hapart _ hcode (ordinary_codes hordinary),.inr⟩

theorem tellsProven_iff {reason : ProtectionReason} : TellsProven (assessExecution definition availability provider
      capabilityDeclared (ownership.map OwnershipBlock.code) ownershipGaps protection guard selfImpact).blockers reason ↔
    TellsProven (protectionBlockers definition protection) reason := by
  unfold TellsProven
  rw [mem_protectionBlockers (proven_code reason),mem_protectionBlockers (by decide)]

theorem tellsUnresolved_iff {reason : ProtectionReason} : TellsUnresolved (assessExecution definition availability provider
      capabilityDeclared (ownership.map OwnershipBlock.code) ownershipGaps protection guard selfImpact).blockers reason ↔
    TellsUnresolved (protectionBlockers definition protection) reason := by
  unfold TellsUnresolved
  rw [mem_protectionBlockers (unresolved_code reason),mem_protectionBlockers (by decide)]

end Execution

section Models

variable {definition : OperationDefinition} {protection : ProtectionAssessment} {reason : ProtectionReason}

/-- An operation that cannot affect the path says nothing of it. -/
theorem untold (h : definition.canAffectManagementPath = false) :
    ¬TellsProven (protectionBlockers definition protection) reason ∧
      ¬TellsUnresolved (protectionBlockers definition protection) reason := by
  simp [TellsProven,TellsUnresolved,protectionBlockers,h]

theorem mem_typed {blocker : String} (haffects : definition.canAffectManagementPath = true)
    (hmodel : definition.protectionUsesResourceRelation = false) : blocker ∈ protectionBlockers definition protection ↔
      (protection.status = .isProtected ∧ ∃ reason ∈ protection.reasons, "protected:" ++ Spelled.code reason = blocker) ∨
      (protection.status = .unknown ∧
        ∃ reason ∈ protection.unresolved, "protection_unresolved:" ++ Spelled.code reason = blocker) := by
  cases hs : protection.status <;> simp [protectionBlockers,haffects,hmodel,hs]

theorem proven_apart (reason reason' : ProtectionReason) :
    ("protected:" ++ Spelled.code reason = "protected:" ++ Spelled.code reason' ↔ reason = reason') ∧
      "protected:" ++ Spelled.code reason ≠ "protection_unresolved:" ++ Spelled.code reason' ∧
      "protected:" ++ Spelled.code reason ∉ ["target_is_management_path","management_path_unproven"] := by
  cases reason <;> cases reason' <;> decide

theorem unresolved_apart (reason reason' : ProtectionReason) :
    ("protection_unresolved:" ++ Spelled.code reason = "protection_unresolved:" ++ Spelled.code reason' ↔ reason = reason') ∧
      "protection_unresolved:" ++ Spelled.code reason ≠ "protected:" ++ Spelled.code reason' ∧
      "protection_unresolved:" ++ Spelled.code reason ∉ ["target_is_management_path","management_path_unproven"] := by
  cases reason <;> cases reason' <;> decide

theorem typed_proven (haffects : definition.canAffectManagementPath = true)
    (hmodel : definition.protectionUsesResourceRelation = false) :
    TellsProven (protectionBlockers definition protection) reason ↔
      protection.status = .isProtected ∧ reason ∈ protection.reasons := by
  unfold TellsProven
  rw [mem_typed haffects hmodel,mem_typed haffects hmodel]
  constructor
  · rintro ((⟨hs,r,hr,he⟩ | ⟨_,r,_,he⟩) | ⟨_,⟨_,r,_,he⟩ | ⟨_,r,_,he⟩⟩)
    · exact ⟨hs,(proven_apart r reason).1.mp he ▸ hr⟩
    · exact absurd he.symm (proven_apart reason r).2.1
    · exact absurd (he ▸ .head _) (proven_apart r r).2.2
    · exact absurd (he ▸ .head _) (unresolved_apart r r).2.2
  · rintro ⟨hs,hr⟩
    exact .inl (.inl ⟨hs,reason,hr,rfl⟩)

theorem typed_unresolved (haffects : definition.canAffectManagementPath = true)
    (hmodel : definition.protectionUsesResourceRelation = false) :
    TellsUnresolved (protectionBlockers definition protection) reason ↔
      protection.status = .unknown ∧ reason ∈ protection.unresolved := by
  unfold TellsUnresolved
  rw [mem_typed haffects hmodel,mem_typed haffects hmodel]
  constructor
  · rintro ((⟨_,r,_,he⟩ | ⟨hs,r,hr,he⟩) | ⟨_,⟨_,r,_,he⟩ | ⟨_,r,_,he⟩⟩)
    · exact absurd he.symm (unresolved_apart reason r).2.1
    · exact ⟨hs,(unresolved_apart r reason).1.mp he ▸ hr⟩
    · exact absurd (he ▸ .tail _ (.head _)) (proven_apart r r).2.2
    · exact absurd (he ▸ .tail _ (.head _)) (unresolved_apart r r).2.2
  · rintro ⟨hs,hr⟩
    exact .inl (.inr ⟨hs,reason,hr,rfl⟩)

theorem mem_relation {blocker : String} (haffects : definition.canAffectManagementPath = true)
    (hmodel : definition.protectionUsesResourceRelation = true) : blocker ∈ protectionBlockers definition protection ↔
      (protection.managementPath = .onManagementPath ∧ blocker = "target_is_management_path") ∨
      (protection.managementPath = .unknown ∧ blocker = "management_path_unproven") := by
  cases hp : protection.managementPath <;> simp [protectionBlockers,haffects,hmodel,hp]

/-- The relation says one thing of one reason. -/
theorem relation_proven (haffects : definition.canAffectManagementPath = true)
    (hmodel : definition.protectionUsesResourceRelation = true) :
    TellsProven (protectionBlockers definition protection) reason ↔
      reason = .managementPath ∧ protection.managementPath = .onManagementPath := by
  unfold TellsProven
  rw [mem_relation haffects hmodel,mem_relation haffects hmodel]
  constructor
  · rintro ((⟨_,he⟩ | ⟨_,he⟩) | ⟨hr,⟨hp,_⟩ | ⟨_,he⟩⟩)
    · exact absurd (he ▸ .head _) (proven_apart reason reason).2.2
    · exact absurd (he ▸ .tail _ (.head _)) (proven_apart reason reason).2.2
    · exact ⟨hr,hp⟩
    · exact absurd he (by decide)
  · rintro ⟨hr,hp⟩
    exact .inr ⟨hr,.inl ⟨hp,rfl⟩⟩

theorem relation_unresolved (haffects : definition.canAffectManagementPath = true)
    (hmodel : definition.protectionUsesResourceRelation = true) :
    TellsUnresolved (protectionBlockers definition protection) reason ↔
      reason = .managementPath ∧ protection.managementPath = .unknown := by
  unfold TellsUnresolved
  rw [mem_relation haffects hmodel,mem_relation haffects hmodel]
  constructor
  · rintro ((⟨_,he⟩ | ⟨_,he⟩) | ⟨hr,⟨_,he⟩ | ⟨hp,_⟩⟩)
    · exact absurd (he ▸ .head _) (unresolved_apart reason reason).2.2
    · exact absurd (he ▸ .tail _ (.head _)) (unresolved_apart reason reason).2.2
    · exact absurd he (by decide)
    · exact ⟨hr,hp⟩
  · rintro ⟨hr,hp⟩
    exact .inr ⟨hr,.inr ⟨hp,rfl⟩⟩

/-- Every reason is told exactly where the model that judges the operation has a word for it. -/
theorem told_iff : Told definition protection ↔
    (∀ reason ∈ protection.reasons, TellsProven (protectionBlockers definition protection) reason) ∧
      ∀ reason ∈ protection.unresolved, TellsUnresolved (protectionBlockers definition protection) reason := by
  unfold Told
  cases haffects : definition.canAffectManagementPath with
  | false => simp [untold haffects,List.eq_nil_iff_forall_not_mem]
  | true =>
    cases hmodel : definition.protectionUsesResourceRelation with
    | true => simp [relation_proven haffects hmodel,relation_unresolved haffects hmodel]
    | false =>
      simp only [typed_proven haffects hmodel,typed_unresolved haffects hmodel]
      cases hs : protection.status <;> simp_all [List.eq_nil_iff_forall_not_mem]

end Models

/-- An assessment is complete exactly where no reason of the protection falls between the two models. -/
theorem blockers_complete_iff (definition : OperationDefinition) (availability : ExecutionAvailability)
    (provider : Option String) (capabilityDeclared : Bool) (ownership : Option OwnershipBlock) (ownershipGaps : List String)
    (protection : ProtectionAssessment) (guard : GuardPlan) (selfImpact : Option BackendSelfImpactAssessment) :
    BlockersComplete definition protection guard selfImpact (assessExecution definition availability provider
      capabilityDeclared (ownership.map OwnershipBlock.code) ownershipGaps protection guard selfImpact) ↔
    Told definition protection := by
  rw [told_iff]
  constructor
  · intro h
    exact ⟨fun r hr => tellsProven_iff.mp (h.proven r hr),fun r hr => tellsUnresolved_iff.mp (h.unresolved r hr)⟩
  · rintro ⟨hproven,hunresolved⟩
    refine ⟨fun r hr => tellsProven_iff.mpr (hproven r hr),fun r hr => tellsUnresolved_iff.mpr (hunresolved r hr),
      eligible_iff_unblocked,guarded_blockers,fun h => ?_⟩
    obtain ⟨heligible,_,_,hblockers⟩ := override_blockers h
    exact ⟨heligible,hblockers⟩

section RolledUp

variable {definition : OperationDefinition} {first : ReasonAssessment} {rest : List ReasonAssessment} {relation : ManagementPathRelation} {missing : List String}

theorem mem_reasons (status : ProtectionStatus) (l : List ReasonAssessment) :
    (l.filter (·.status = status)).map (·.reason) ≠ [] ↔ ∃ e ∈ l, e.status = status := by
  simp [List.filter_eq_nil_iff]

theorem of_find {status : ProtectionStatus} {l : List ReasonAssessment} {e : ReasonAssessment}
    (h : l.find? (·.status = status) = some e) : ∃ e ∈ l, e.status = status :=
  ⟨e,List.mem_of_find?_eq_some h,by simpa using List.find?_some h⟩

theorem of_find_none {status : ProtectionStatus} {l : List ReasonAssessment}
    (h : l.find? (·.status = status) = none) : ¬∃ e ∈ l, e.status = status := by
  simpa using h

theorem decisive_isProtected : (decisive first rest).1 = .isProtected ↔ ∃ e ∈ first :: rest, e.status = .isProtected := by
  unfold decisive
  cases hp : (first :: rest).find? (·.status = .isProtected) with
  | some e => exact iff_of_true rfl (of_find hp)
  | none =>
    refine iff_of_false (fun h => ?_) (of_find_none hp)
    cases hu : (first :: rest).find? (·.status = .unknown) <;> rw [hu] at h <;> cases h

theorem decisive_unknown : (decisive first rest).1 = .unknown ↔
    (¬∃ e ∈ first :: rest, e.status = .isProtected) ∧ ∃ e ∈ first :: rest, e.status = .unknown := by
  unfold decisive
  cases hp : (first :: rest).find? (·.status = .isProtected) with
  | some e => exact iff_of_false (fun h => nomatch h) fun h => h.1 (of_find hp)
  | none =>
    cases hu : (first :: rest).find? (·.status = .unknown) with
    | some e => exact iff_of_true rfl ⟨of_find_none hp,of_find hu⟩
    | none => exact iff_of_false (fun h => nomatch h) fun h => of_find_none hu h.2

/-- Of what is rolled up, only a reason left open beside a proven one is not told. -/
theorem rollUp_told (haffects : definition.canAffectManagementPath = true)
    (hmodel : definition.protectionUsesResourceRelation = false) :
    Told definition (rollUpProtection first rest relation missing) ↔
      ¬((∃ e ∈ first :: rest, e.status = .isProtected) ∧ ∃ e ∈ first :: rest, e.status = .unknown) := by
  have hproven := (mem_reasons .isProtected (first :: rest)).not
  have hopen := (mem_reasons .unknown (first :: rest)).not
  have hprotected := @decisive_isProtected first rest
  have hunknown := @decisive_unknown first rest
  simp only [Told,haffects,hmodel,Bool.true_eq_false,if_false,if_true]
  show (match (decisive first rest).1 with
    | .isProtected => ((first :: rest).filter (·.status = .unknown)).map (·.reason) = []
    | .unknown => ((first :: rest).filter (·.status = .isProtected)).map (·.reason) = []
    | .clear => ((first :: rest).filter (·.status = .isProtected)).map (·.reason) = [] ∧
        ((first :: rest).filter (·.status = .unknown)).map (·.reason) = []) ↔ _
  cases hs : (decisive first rest).1 with
  | isProtected => grind
  | unknown => grind
  | clear => grind

/-- A target judged by how it stands to the path carries one reason at most, and the relation says it. -/
theorem resource_told (v : ManagementPathVerdict) (resourceId : String)
    (hmodel : definition.canAffectManagementPath → definition.protectionUsesResourceRelation) :
    Told definition (assessProtection definition v resourceId) := by
  unfold Told assessProtection assessResourceProtection assessManagementPathReason
  cases haffects : definition.canAffectManagementPath with
  | false => simp [rollUpProtection]
  | true =>
    rw [hmodel haffects]
    cases hrelation : v.relation resourceId <;> simp [rollUpProtection]

end RolledUp

/-- A stop that reaches the management path, where the agent's own unit could not be found. -/
def agentUnfound : SystemdLifecycleContext where
  status := "partial"
  observedAt := "2026-01-01T00:00:00+00:00"
  targetUnit := "ssh.service"
  action := .stop
  targetFacts := []
  effectUnits := ["ssh.service"]
  effectEdges := []
  effectComplete := true
  activeActivationSources := []
  activeUpholdingSources := []
  managementUnits := ["ssh.service"]
  managementComplete := true
  connectionUnit := some "ssh.service"
  connectionUnitType := some "service"
  agentUnit := none
  agentComplete := false
  agentUnitType := none
  gaps := ["localplane_agent.containing_unit"]
  evidence := []
  runtimeOwner := none
  observationId := none

/-- Its plan is blocked by the path it reaches, and the open question about the agent is left out. -/
theorem open_reason_dropped : ¬∀ (definition : OperationDefinition) (availability : ExecutionAvailability)
    (provider : Option String) (capabilityDeclared : Bool) (ownership : Option OwnershipBlock) (ownershipGaps : List String)
    (protection : ProtectionAssessment) (guard : GuardPlan) (selfImpact : Option BackendSelfImpactAssessment),
    BlockersComplete definition protection guard selfImpact (assessExecution definition availability provider
      capabilityDeclared (ownership.map OwnershipBlock.code) ownershipGaps protection guard selfImpact) := by
  intro h
  have hcomplete := h systemdLifecycle .available (some "systemd") true none [] (assessLifecycleProtection agentUnfound)
    ⟨.unavailable,"operation_has_no_safe_automatic_inverse",0,[],[],""⟩ none
  have htold := hcomplete.unresolved .localplaneAgent (by decide)
  rcases htold with htold | ⟨hreason,-⟩
  · exact absurd htold (by decide)
  · cases hreason

end Planning
end LocalPlane
