import LocalPlane.SelfImpact

/-!
# What a clear lifecycle verdict is earned by

Every reason moves one way when units are added or a correlation stops being complete, and the
roll-up is the gravest of its reasons, so the verdict moves the same way.
-/

set_option linter.dupNamespace false

namespace LocalPlane
namespace Planning

/-- How far a status is from a clean bill of health. -/
def ProtectionStatus.severity : ProtectionStatus → Nat
  | .clear => 0
  | .unknown => 1
  | .isProtected => 2

@[simp] theorem ProtectionStatus.severity_eq_zero {status : ProtectionStatus} : status.severity = 0 ↔ status = .clear := by
  cases status <;> simp [severity]

theorem ProtectionStatus.severity_le_two (status : ProtectionStatus) : status.severity ≤ 2 := by
  cases status <;> simp [severity]

section RollUp

variable {first first' : ReasonAssessment} {rest rest' : List ReasonAssessment}

/-- A reason among those where none has the status looked for has another one. -/
theorem status_ne {status : ProtectionStatus} {all : List ReasonAssessment} (h : all.find? (fun e => e.status = status) = none)
    {e : ReasonAssessment} (he : e ∈ all) : e.status ≠ status := by simpa using List.find?_eq_none.mp h e he

theorem severity_of_rest {status : ProtectionStatus} (hp : status ≠ .isProtected) (hu : status ≠ .unknown) : status.severity = 0 := by
  cases status
  · exact absurd rfl hp
  · rfl
  · exact absurd rfl hu

theorem decisive_mem (first : ReasonAssessment) (rest : List ReasonAssessment) :
    ∃ e ∈ first :: rest,e.status.severity = (decisive first rest).1.severity := by
  unfold decisive
  split
  · next e he =>
    have hstatus : e.status = .isProtected := by simpa using List.find?_some he
    exact ⟨e,List.mem_of_find?_eq_some he,by rw [hstatus]⟩
  · next hprotected =>
    split
    · next e he =>
      have hstatus : e.status = .unknown := by simpa using List.find?_some he
      exact ⟨e,List.mem_of_find?_eq_some he,by rw [hstatus]⟩
    · next hunknown =>
      exact ⟨first,List.mem_cons_self,
        severity_of_rest (status_ne hprotected List.mem_cons_self) (status_ne hunknown List.mem_cons_self)⟩

theorem le_decisive {e : ReasonAssessment} (he : e ∈ first :: rest) :
    e.status.severity ≤ (decisive first rest).1.severity := by
  unfold decisive
  split
  · exact e.status.severity_le_two
  · next hprotected =>
    have hp := status_ne hprotected he
    split
    · cases hs : e.status
      · exact absurd hs hp
      · exact Nat.zero_le _
      · exact Nat.le_refl _
    · next hunknown => exact (severity_of_rest hp (status_ne hunknown he)).le

/-- Reasons that are each answered by one at least as grave roll up to a verdict as grave. -/
theorem decisive_mono
    (h : ∀ e ∈ first :: rest,∃ e' ∈ first' :: rest',e.status.severity ≤ e'.status.severity) :
    (decisive first rest).1.severity ≤ (decisive first' rest').1.severity := by
  obtain ⟨e,he,hseverity⟩ := decisive_mem first rest
  obtain ⟨e',he',hle⟩ := h e he
  rw [← hseverity]
  exact hle.trans (le_decisive he')

theorem decisive_clear : (decisive first rest).1 = .clear ↔ ∀ e ∈ first :: rest,e.status = .clear := by
  constructor
  · intro h e he
    have hle := le_decisive he
    rw [h] at hle
    exact ProtectionStatus.severity_eq_zero.mp (Nat.le_zero.mp hle)
  · intro h
    obtain ⟨e,he,hseverity⟩ := decisive_mem first rest
    rw [h e he] at hseverity
    exact ProtectionStatus.severity_eq_zero.mp hseverity.symm

end RollUp

section Lifecycle

/-- The same agent under evidence that reaches further and is known less completely. -/
structure Doubted (doubted c : SystemdLifecycleContext) : Prop where
  effectUnits : c.effectUnits ⊆ doubted.effectUnits
  managementUnits : c.managementUnits ⊆ doubted.managementUnits
  effectComplete : doubted.effectComplete → c.effectComplete
  managementComplete : doubted.managementComplete → c.managementComplete
  agentComplete : doubted.agentComplete → c.agentComplete
  agentUnit : doubted.agentUnit = c.agentUnit

/-- A clear verdict rests on two whole sets with no unit in common, and weaker evidence never
reaches it from a verdict that was not clear. -/
structure ClearanceEarned (c : SystemdLifecycleContext) : Prop where
  complete : (assessLifecycleProtection c).status = .clear → c.effectComplete ∧ c.managementComplete
  disjoint : (assessLifecycleProtection c).status = .clear → ∀ unit ∈ c.effectUnits,unit ∉ c.managementUnits
  kept : ∀ doubted,Doubted doubted c → (assessLifecycleProtection c).status ≠ .clear →
    (assessLifecycleProtection doubted).status ≠ .clear
  graver : ∀ doubted,Doubted doubted c →
    (assessLifecycleProtection c).status.severity ≤ (assessLifecycleProtection doubted).status.severity

variable {c doubted : SystemdLifecycleContext}

theorem managementIntersection_eq_nil :
    c.managementIntersection = [] ↔ ∀ unit ∈ c.effectUnits,unit ∉ c.managementUnits := by
  rw [List.eq_nil_iff_forall_not_mem]
  simp only [mem_managementIntersection,not_and]

theorem agentReached_iff : c.agentReached ↔ ∃ unit,c.agentUnit = some unit ∧ unit ∈ c.effectUnits := by
  simp [SystemdLifecycleContext.agentReached,Option.any_eq_true]

theorem managementStatus_clear : c.managementStatus.1 = .clear ↔
    c.managementIntersection = [] ∧ c.managementComplete ∧ c.effectComplete := by
  unfold SystemdLifecycleContext.managementStatus
  split
  · next h => simp [h]
  · next h =>
    rw [not_ne_iff] at h
    cases c.managementComplete <;> cases c.effectComplete <;> simp [h]

theorem managementStatus_protected : c.managementStatus.1 = .isProtected ↔ c.managementIntersection ≠ [] := by
  unfold SystemdLifecycleContext.managementStatus
  split
  · next h => simp [h]
  · next h =>
    rw [not_ne_iff] at h
    split <;> simp [h]

theorem agentStatus_clear : c.agentStatus.1 = .clear ↔
    ¬c.agentReached ∧ c.agentComplete ∧ c.effectComplete ∧ c.agentUnit.any (· ≠ "") := by
  unfold SystemdLifecycleContext.agentStatus
  split
  · next h => simp [h]
  · next h =>
    split
    · next hclear =>
      simp only [Bool.and_eq_true] at hclear
      exact iff_of_true rfl ⟨h,hclear.1.1,hclear.1.2,hclear.2⟩
    · next hclear =>
      refine iff_of_false (by simp) fun hall => hclear ?_
      simp only [hall.2.1,hall.2.2.1,hall.2.2.2,Bool.and_self]

theorem agentStatus_protected : c.agentStatus.1 = .isProtected ↔ c.agentReached := by
  unfold SystemdLifecycleContext.agentStatus
  split
  · next h => simp [h]
  · next h => split <;> simp [h]

/-- Two statuses ordered by what makes the first protected and what makes the second clear. -/
theorem severity_le {status status' : ProtectionStatus} (hprotected : status = .isProtected → status' = .isProtected)
    (hclear : status' = .clear → status = .clear) : status.severity ≤ status'.severity := by
  cases status <;> cases status' <;> simp_all [ProtectionStatus.severity]

theorem Doubted.intersection (h : Doubted doubted c) (hi : c.managementIntersection ≠ []) :
    doubted.managementIntersection ≠ [] := by
  obtain ⟨unit,hunit⟩ := List.exists_mem_of_ne_nil _ hi
  obtain ⟨heffect,hmanagement⟩ := mem_managementIntersection.mp hunit
  exact List.ne_nil_of_mem
    (mem_managementIntersection.mpr ⟨h.effectUnits heffect,h.managementUnits hmanagement⟩)

theorem Doubted.agentReached (h : Doubted doubted c) (hr : c.agentReached) : doubted.agentReached := by
  obtain ⟨unit,hagent,hunit⟩ := agentReached_iff.mp hr
  exact agentReached_iff.mpr ⟨unit,h.agentUnit.trans hagent,h.effectUnits hunit⟩

theorem Doubted.managementStatus (h : Doubted doubted c) :
    c.managementStatus.1.severity ≤ doubted.managementStatus.1.severity := by
  apply severity_le
  · intro hp
    exact managementStatus_protected.mpr (h.intersection (managementStatus_protected.mp hp))
  · intro hclear
    obtain ⟨hnil,hmanagement,heffect⟩ := managementStatus_clear.mp hclear
    exact managementStatus_clear.mpr
      ⟨not_ne_iff.mp fun hi => h.intersection hi hnil,h.managementComplete hmanagement,h.effectComplete heffect⟩

theorem Doubted.agentStatus (h : Doubted doubted c) :
    c.agentStatus.1.severity ≤ doubted.agentStatus.1.severity := by
  apply severity_le
  · intro hp
    exact agentStatus_protected.mpr (h.agentReached (agentStatus_protected.mp hp))
  · intro hclear
    obtain ⟨hout,hagent,heffect,hnamed⟩ := agentStatus_clear.mp hclear
    exact agentStatus_clear.mpr
      ⟨fun hr => hout (h.agentReached hr),h.agentComplete hagent,h.effectComplete heffect,h.agentUnit ▸ hnamed⟩

/-- What a clear verdict says: both reasons were settled over a whole closure. -/
theorem lifecycle_clear_iff : (assessLifecycleProtection c).status = .clear ↔
    c.managementStatus.1 = .clear ∧ c.agentStatus.1 = .clear := by
  refine decisive_clear.trans ?_
  simp [SystemdLifecycleContext.managementReason,SystemdLifecycleContext.agentReason]

theorem Doubted.severity (h : Doubted doubted c) :
    (assessLifecycleProtection c).status.severity ≤ (assessLifecycleProtection doubted).status.severity := by
  apply decisive_mono
  intro e he
  rcases List.mem_cons.mp he with rfl | he
  · exact ⟨_,List.mem_cons_self,h.managementStatus⟩
  · obtain rfl := List.mem_singleton.mp he
    exact ⟨_,List.mem_cons_of_mem _ List.mem_cons_self,h.agentStatus⟩

theorem lifecycle_monotone (c : SystemdLifecycleContext) : ClearanceEarned c where
  complete h := by
    obtain ⟨_,hmanagement,heffect⟩ := managementStatus_clear.mp (lifecycle_clear_iff.mp h).1
    exact ⟨heffect,hmanagement⟩
  disjoint h := managementIntersection_eq_nil.mp (managementStatus_clear.mp (lifecycle_clear_iff.mp h).1).1
  kept doubted h hne hclear := by
    apply hne
    have hle := h.severity
    rw [ProtectionStatus.severity_eq_zero.mpr hclear] at hle
    exact ProtectionStatus.severity_eq_zero.mp (Nat.le_zero.mp hle)
  graver _ h := h.severity

end Lifecycle

end Planning
end LocalPlane
